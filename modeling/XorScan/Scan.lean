import XorScan.Lexeme
import XorScan.Token

namespace XorScan

def Token.endOfInput (p : Position) : Token := ⟨.endOfInput, [], p⟩

def Token.front (p : Position) (c : Char) (r : List Char) : Except ScanError Token :=
  match Lexeme.front c r with
  | .ok l => .ok ⟨l.kind, c :: r.take l.tail, p⟩
  | .error f => .error ⟨f.fault, p.advanceAll ((c :: r).take f.distance)⟩

/-- What a scan yields: its tokens, and the error that cut it short. -/
structure Scan where
  tokens : List Token
  error? : Option ScanError
  deriving DecidableEq

namespace Scan

def push (t : Token) (s : Scan) : Scan := ⟨t :: s.tokens, s.error?⟩

def run (p : Position) : List Char → Scan
  | [] => ⟨[Token.endOfInput p], none⟩
  | c :: r =>
    match Token.front p c r with
    | .error e => ⟨[], some e⟩
    | .ok t => (run (p.advanceAll t.text) (r.drop (t.text.length - 1))).push t
termination_by s => s.length

end Scan

def tokenize (source : List Char) : Except ScanError (List Token) :=
  let s := Scan.run .start source
  match s.error? with
  | none => .ok s.tokens
  | some e => .error e

end XorScan
