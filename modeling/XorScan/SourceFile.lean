import XorScan.Position
import XorScan.Text.Bytes

namespace XorScan

structure SourceFile where
  name : String
  content : List Char
  deriving DecidableEq

namespace SourceFile

def lineStartsFrom (offset : Nat) : List Char → List Nat
  | [] => []
  | c :: s =>
    if c = '\n' then (offset + 1) :: lineStartsFrom (offset + 1) s
    else lineStartsFrom (offset + c.utf8Size) s

def lineStarts (f : SourceFile) : List Nat := 0 :: lineStartsFrom 0 f.content

def lineCount (f : SourceFile) : Nat := f.lineStarts.length

def dropCarriageReturn (s : List Char) : List Char :=
  if s.getLast? = some '\r' then s.dropLast else s

/-- A line, counted from zero, without what ends it. -/
def line? (f : SourceFile) (i : Nat) : Option (List Char) := do
  let start ← f.lineStarts[i]?
  let stop := match f.lineStarts[i + 1]? with
    | some next => next - 1
    | none => Text.byteLength f.content
  (Text.slice? f.content start stop).map dropCarriageReturn

def lineOf? (f : SourceFile) (p : Position) : Option (List Char) := f.line? p.line

end SourceFile

end XorScan
