import XorScan.Fault
import XorScan.Snippet
import XorScan.SourceFile

namespace XorScan

structure Diagnostic where
  message : String
  position : Position
  label? : Option String
  helps : List String
  deriving DecidableEq

namespace Diagnostic

def ofMessage (message : String) (position : Position) : Diagnostic :=
  ⟨message, position, none, []⟩

/-- A later label replaces an earlier one. -/
def withLabel (d : Diagnostic) (label : String) : Diagnostic := { d with label? := some label }

def withHelp (d : Diagnostic) (help : String) : Diagnostic :=
  { d with helps := d.helps ++ [help] }

def level : String := "error"

def display (d : Diagnostic) : String :=
  level ++ ": " ++ d.message ++ " at " ++ d.position.display

def snippet? (d : Diagnostic) (f : SourceFile) : Option Snippet :=
  (f.lineOf? d.position).map fun line =>
    .point line d.position.displayLine d.position.displayColumn d.label?

def rows (d : Diagnostic) (f : SourceFile) : List String :=
  let snippet? := d.snippet? f
  let gutter := (snippet?.map Snippet.gutterWidth).getD 3
  [level ++ ": " ++ d.message,
    Text.padLeft (gutter + 1) "-->" ++ " " ++ f.name ++ ":" ++ d.position.display] ++
  (match snippet? with
    | some s => [Text.padLeft gutter "" ++ " |", s.lineRow, s.caretRow]
    | none => []) ++
  d.helps.map fun h => Text.padLeft gutter "" ++ " = help: " ++ h

def render (d : Diagnostic) (f : SourceFile) : String :=
  String.join ((d.rows f).map (· ++ "\n"))

end Diagnostic

def ScanError.diagnostic (e : ScanError) : Diagnostic :=
  ⟨e.fault.message, e.position, e.fault.label?, e.fault.help?.toList⟩

end XorScan
