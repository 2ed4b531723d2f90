import XorScan.Failure
import XorScan.Scan

namespace XorScan

def stdinName : String := "-"

/-- A byte order mark in front is no part of a source. -/
def dropMark : List Char → List Char
  | '\ufeff' :: s => s
  | s => s

def readSource (files : Files) (stdin : ByteArray) (input : String) :
    Except Failure SourceFile :=
  if input = stdinName then
    match decodeText stdin with
    | .ok s => .ok ⟨"<stdin>", dropMark s⟩
    | .error e => .error (.unreadable input e)
  else
    match files.readText input with
    | .ok s => .ok ⟨input, dropMark s⟩
    | .error e => .error (.unreadable input e)

def scanInput (files : Files) (stdin : ByteArray) (input : String) :
    Except Failure (List Token) := do
  let file ← readSource files stdin input
  match tokenize file.content with
  | .ok tokens => .ok tokens
  | .error e => .error (.ofScanError file e)

end XorScan
