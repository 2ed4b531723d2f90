import XorScan.Position
import XorScan.Text.Columns

namespace XorScan

/-- A source line with columns marked under it. Lines and columns count from one, and the end column
is the first one that is not marked. -/
structure Snippet where
  line : List Char
  lineNumber : Nat
  startColumn : Nat
  endColumn : Nat
  label? : Option String
  deriving DecidableEq

namespace Snippet

def point (line : List Char) (lineNumber column : Nat) (label? : Option String) : Snippet :=
  ⟨line, lineNumber, column, column, label?⟩

/-- Tabs are shown as the columns they take, so that marks stand under what they mark. -/
def expandTabs (s : List Char) : List Char :=
  s.flatMap fun c => if c = '\t' then List.replicate tabWidth ' ' else [c]

def gutterWidth (s : Snippet) : Nat := max 3 (toString s.lineNumber).length

def lineRow (s : Snippet) : String :=
  Text.padLeft s.gutterWidth (toString s.lineNumber) ++ " | " ++
    String.ofList (expandTabs s.line)

def caretRow (s : Snippet) : String :=
  Text.padLeft s.gutterWidth "" ++ " | " ++
    String.ofList (List.replicate (s.startColumn - 1) ' ') ++
    String.ofList (List.replicate (max 1 (s.endColumn - s.startColumn)) '^') ++
    match s.label? with
    | some l => " " ++ l
    | none => ""

def format (s : Snippet) : String := s.lineRow ++ "\n" ++ s.caretRow

end Snippet

end XorScan
