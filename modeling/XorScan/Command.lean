import XorScan.Dump
import XorScan.Input
import XorScan.Log.Event
import XorScan.Output

namespace XorScan

/-- How many tokens a source has, with the end of input, and how many of them carry meaning. -/
structure Summary where
  total : Nat
  significant : Nat
  deriving DecidableEq

namespace Summary

def ofTokens (ts : List Token) : Summary := ⟨ts.length, ts.countP Token.isSignificant⟩

def display (s : Summary) : String :=
  s!"ok: {s.total} tokens ({s.significant} significant)"

end Summary

inductive Command where
  | tokens (input : String) (format : OutputFormat) (trivia : Bool)
  | check (input : String)
  deriving DecidableEq

namespace Command

def input : Command → String
  | tokens input _ _ => input
  | check input => input

/-- The output of a command for the tokens of its input. A JSON listing is one array and a line
feed; the other outputs are rows. -/
def pieces (c : Command) (ts : List Token) : List Piece :=
  match c with
  | tokens _ .text trivia =>
    (ts.filter (·.isShown trivia)).map fun t => ⟨t.row ++ "\n", .io⟩
  | tokens _ .json trivia =>
    let records := (ts.filter (·.isShown trivia)).map Token.record
    [⟨Json.prettyArray records, .json⟩, ⟨"\n", .io⟩]
  | check _ => [⟨(Summary.ofTokens ts).display ++ "\n", .io⟩]

def runCheck (files : Files) (stdin : ByteArray) (device : Device) (input : String) :
    String × Except Failure Summary :=
  match scanInput files stdin input with
  | .error f => ("", .error f)
  | .ok ts =>
    match device.write "" ((check input).pieces ts) with
    | (out, none) => (out, .ok (Summary.ofTokens ts))
    | (out, some f) => (out, .error f)

def runTokens (files : Files) (stdin : ByteArray) (device : Device) (input : String)
    (format : OutputFormat) (trivia : Bool) : String × Option Failure :=
  match scanInput files stdin input with
  | .error f => ("", some f)
  | .ok ts => device.write "" ((tokens input format trivia).pieces ts)

/-- Carries out a command: what it writes, and why it fails. Nothing is written before the input has
been scanned to its end. -/
def run (files : Files) (stdin : ByteArray) (device : Device) : Command → String × Option Failure
  | tokens input format trivia => runTokens files stdin device input format trivia
  | check input =>
    match runCheck files stdin device input with
    | (out, .ok _) => (out, none)
    | (out, .error f) => (out, some f)

/-- What happens before the output is written. A token is told of when it is found, and the command
tells that all of them were. -/
def events (files : Files) (stdin : ByteArray) (c : Command) : List Log.Event :=
  .started :: match readSource files stdin c.input with
  | .error _ => []
  | .ok file =>
    let s := Scan.run .start file.content
    .sourceRead (c.input = stdinName) :: s.tokens.map (fun _ => .tokenFound) ++
      [match s.error?, c with
        | some _, _ => .scanFailed
        | none, tokens .. => .tokensScanned
        | none, check _ => .checkPassed]

end Command

end XorScan
