import XorScan.Escape
import XorScan.Kind
import XorScan.Position
import XorScan.Text.Bytes
import XorScan.Text.Quoted

namespace XorScan

structure Token where
  kind : Kind
  text : List Char
  position : Position
  deriving DecidableEq

/-- A literal cannot be opened where its first or last byte lies inside a character. -/
inductive CutError where
  | insideCharacter
  deriving DecidableEq

namespace Token

def size (t : Token) : Nat := Text.byteLength t.text

def endOffset (t : Token) : Nat := t.position.offset + t.size

def isTrivia (t : Token) : Bool := t.kind.isTrivia

def isEndOfInput (t : Token) : Bool := t.kind = .endOfInput

def isSignificant (t : Token) : Bool := !t.isTrivia && !t.isEndOfInput

def hasBody (t : Token) : Bool :=
  (t.kind = .literal .string || t.kind = .literal .character) && 2 ≤ t.size

/-- The text that a string or character literal stands for; other tokens, and bodies with a broken
escape, stand for none. -/
def literalValue (t : Token) : Except CutError (Option (List Char)) :=
  if t.hasBody then
    match Text.slice? t.text 1 (t.size - 1) with
    | none => .error .insideCharacter
    | some body => .ok (Escape.unescape body).toOption
  else .ok none

def value? (t : Token) : Option (List Char) := t.literalValue.toOption.join

def display (t : Token) : String :=
  t.kind.name ++ "(" ++ Text.quote t.text ++ ") at " ++ t.position.display

end Token

end XorScan
