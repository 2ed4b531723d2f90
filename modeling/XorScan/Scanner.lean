import XorScan.Scan

namespace XorScan

inductive Scanner.Stage where
  | scanning
  | failed (e : ScanError)
  | finished
  deriving DecidableEq

structure Scanner where
  source : List Char
  rest : List Char
  position : Position
  stage : Scanner.Stage
  deriving DecidableEq

namespace Scanner

def ofSource (source : List Char) : Scanner := ⟨source, source, .start, .scanning⟩

/-- True until the end of input has been handed out, also after an error. -/
def hasMore (s : Scanner) : Bool := s.stage != .finished

def failure? (s : Scanner) : Option ScanError :=
  match s.stage with
  | .failed e => some e
  | _ => none

def skip (s : Scanner) (t : Token) : Scanner :=
  ⟨s.source, s.rest.drop t.text.length, s.position.advanceAll t.text, s.stage⟩

/-- The next token. An error is repeated for ever, and nothing follows the end of input. -/
def next (s : Scanner) : Except ScanError Token × Scanner :=
  match s.stage with
  | .failed e => (.error e, s)
  | .finished => (.error ⟨.alreadyFinished, s.position⟩, s)
  | .scanning =>
    match s.rest with
    | [] => (.ok (Token.endOfInput s.position), { s with stage := .finished })
    | c :: r =>
      match Token.front s.position c r with
      | .error e => (.error e, { s with stage := .failed e })
      | .ok t => (.ok t, s.skip t)

/-- The next token or the first error; nothing once either end has been reached. -/
def next? (s : Scanner) : Option (Except ScanError Token) × Scanner :=
  match s.stage with
  | .scanning => let (a, s') := s.next; (some a, s')
  | _ => (none, s)

def remaining (s : Scanner) : List (Except ScanError Token) :=
  match s.stage with
  | .scanning =>
    let run := Scan.run s.position s.rest
    run.tokens.map .ok ++ run.error?.toList.map .error
  | _ => []

def finish (s : Scanner) : Scanner :=
  match s.stage with
  | .scanning =>
    let run := Scan.run s.position s.rest
    let passed := run.tokens.flatMap (·.text)
    ⟨s.source, s.rest.drop passed.length, s.position.advanceAll passed,
      match run.error? with
      | some e => .failed e
      | none => .finished⟩
  | _ => s

end Scanner

end XorScan
