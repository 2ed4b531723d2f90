namespace XorScan.Log

inductive Level where
  | off | error | warn | info | debug | trace
  deriving DecidableEq

namespace Level

def all : List Level := [off, error, warn, info, debug, trace]

def name : Level → String
  | off => "off"
  | error => "error"
  | warn => "warn"
  | info => "info"
  | debug => "debug"
  | trace => "trace"

def rank : Level → Nat
  | off => 0
  | error => 1
  | warn => 2
  | info => 3
  | debug => 4
  | trace => 5

def number? (s : List Char) : Option Nat :=
  let ds := if s.head? = some '+' then s.drop 1 else s
  if ds ≠ [] ∧ ds.all Char.isDigit then some (Nat.ofDigitChars 10 ds 0) else none

def read? (s : List Char) : Option Level :=
  ((number? s).bind (all[·]?)).or (all.find? fun l => l.name.toList = s.map Char.toLower)

end Level

inductive Event where
  | started
  | sourceRead (fromStdin : Bool)
  | tokenFound
  | scanFailed
  | tokensScanned
  | checkPassed
  deriving DecidableEq

namespace Event

def level : Event → Level
  | tokenFound => .trace
  | _ => .debug

def origin : Event → String
  | started => "xorc_drv"
  | sourceRead _ => "xorc_drv::commands"
  | tokenFound | scanFailed => "xorc_lex::scanner::core"
  | tokensScanned => "xorc_drv::commands::tokens"
  | checkPassed => "xorc_drv::commands::check"

def fields : Event → List String
  | started => ["args", "message"]
  | sourceRead true => ["bytes", "message"]
  | sourceRead false => ["path", "bytes", "message"]
  | tokenFound => ["kind", "line", "column", "offset", "message"]
  | scanFailed => ["line", "column", "message"]
  | tokensScanned => ["file", "count", "message"]
  | checkPassed => ["file", "summary", "message"]

end Event

end XorScan.Log
