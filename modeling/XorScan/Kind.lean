import XorScan.Symbol
import XorScan.ReservedWord

namespace XorScan

inductive Trivia where
  | newline | space | tab | comment
  deriving DecidableEq

inductive Literal where
  | identifier | number | decimal | string | character | boolean | null
  deriving DecidableEq

inductive Kind where
  | trivia (t : Trivia)
  | endOfInput
  | symbol (s : Symbol)
  | keyword (k : Keyword)
  | primitive (p : Primitive)
  | literal (l : Literal)
  deriving DecidableEq

def Trivia.name : Trivia → String
  | .newline => "NEWLINE"
  | .space => "SPACE"
  | .tab => "TAB"
  | .comment => "COMMENT"

def Literal.name : Literal → String
  | .identifier => "IDENTIFIER"
  | .number => "NUMBER"
  | .decimal => "DECIMAL"
  | .string => "STRING"
  | .character => "CHARACTER"
  | .boolean => "BOOLEAN"
  | .null => "NULL"

namespace Kind

def name : Kind → String
  | trivia t => t.name
  | endOfInput => "EOI"
  | symbol s => s.name
  | keyword k => k.name
  | primitive p => p.name
  | literal l => l.name

def category : Kind → String
  | trivia _ => "trivia"
  | endOfInput => "terminal"
  | symbol _ => "symbol"
  | keyword _ => "keyword"
  | primitive _ => "primitive-type"
  | literal _ => "literal"

def isTrivia : Kind → Bool
  | trivia _ => true
  | _ => false

def isReserved : Kind → Bool
  | keyword _ | primitive _ | literal .boolean | literal .null => true
  | _ => false

def all : List Kind :=
  [Trivia.newline, .space, .tab, .comment].map trivia ++ [endOfInput] ++
    Symbol.all.map symbol ++ Keyword.all.map keyword ++ Primitive.all.map primitive ++
    [Literal.identifier, .number, .decimal, .string, .character, .boolean, .null].map literal

def reserved? (w : String) : Option Kind :=
  (Keyword.ofWord? w).map keyword <|> (Primitive.ofWord? w).map primitive <|>
    if w = "true" ∨ w = "false" then some (literal .boolean)
    else if w = "null" then some (literal .null)
    else none

end Kind

end XorScan
