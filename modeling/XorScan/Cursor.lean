import XorScan.Position
import XorScan.Text.Bytes

namespace XorScan

structure Cursor where
  source : List Char
  rest : List Char
  position : Position
  deriving DecidableEq

namespace Cursor

def ofSource (source : List Char) : Cursor := ⟨source, source, .start⟩

def offset (k : Cursor) : Nat := k.position.offset

def isAtEnd (k : Cursor) : Bool := k.rest.isEmpty

def peek (k : Cursor) (n : Nat) : Option Char := k.rest[n]?

def current (k : Cursor) : Option Char := k.rest.head?

def startsWith (k : Cursor) (s : List Char) : Bool := s.isPrefixOf k.rest

def skip (k : Cursor) (n : Nat) : Cursor :=
  ⟨k.source, k.rest.drop n, k.position.advanceAll (k.rest.take n)⟩

def bump (k : Cursor) : Option Char × Cursor := (k.current, k.skip 1)

def eat (k : Cursor) (c : Char) : Bool × Cursor :=
  if k.current = some c then (true, k.skip 1) else (false, k)

def eatText (k : Cursor) (s : List Char) : Bool × Cursor :=
  if k.startsWith s then (true, k.skip s.length) else (false, k)

def eatWhile (k : Cursor) (p : Char → Bool) : Nat × Cursor :=
  let n := (k.rest.takeWhile p).length
  (n, k.skip n)

/-- The number of characters before the first that `p` turns down, where `p` may remember those that
it has let pass, `seen`. -/
def allowed (p : List Char → Char → Bool) (seen : List Char) : List Char → Nat
  | [] => 0
  | c :: s => if p seen c then allowed p (seen ++ [c]) s + 1 else 0

def eatWhileWith (k : Cursor) (p : List Char → Char → Bool) : Nat × Cursor :=
  let n := allowed p [] k.rest
  (n, k.skip n)

def covering : Nat → List Char → Nat
  | 0, _ => 0
  | _ + 1, [] => 0
  | n + 1, c :: s => covering (n + 1 - c.utf8Size) s + 1

/-- Moves over whole characters until `n` bytes are passed, or to the end. -/
def skipBytes (k : Cursor) (n : Nat) : Cursor := k.skip (covering n k.rest)

def sliceFrom? (k : Cursor) (start : Nat) : Option (List Char) :=
  Text.slice? k.source start k.offset

end Cursor

end XorScan
