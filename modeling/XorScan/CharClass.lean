namespace XorScan

inductive CharClass where
  | newline | space | tab | slash | symbol | identStart | digit | quote | other
  deriving DecidableEq

namespace CharClass

def isIdentStart (c : Char) : Bool := c.isAlpha || c == '_'

def isIdentContinue (c : Char) : Bool := c.isAlphanum || c == '_'

/-- The characters that begin a symbol, the slash apart: it may begin a comment too. -/
def symbolStarts : List Char :=
  ['(', ')', '{', '}', '[', ']', ';', ',', ':', '.', '?', '@', '#', '=', '!', '<', '>', '&', '|',
    '^', '~', '+', '-', '*', '%']

def of (c : Char) : CharClass :=
  if c = '\n' ∨ c = '\r' then newline
  else if c = ' ' then space
  else if c = '\t' then tab
  else if c = '/' then slash
  else if c ∈ symbolStarts then symbol
  else if isIdentStart c then identStart
  else if c.isDigit then digit
  else if c = '"' ∨ c = '\'' then quote
  else other

end CharClass

end XorScan
