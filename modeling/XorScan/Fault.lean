import XorScan.Escape
import XorScan.Position
import XorScan.Text.Quoted

namespace XorScan

inductive Fault where
  | unexpectedCharacter (c : Char)
  | unterminatedComment
  | unterminatedLiteral (delimiter : Char)
  | invalidEscape (reason : EscapeError)
  | invalidCharLiteral
  | alreadyFinished
  deriving DecidableEq

namespace Fault

def literalName (delimiter : Char) : String :=
  if delimiter = '\'' then "character" else "string"

def message : Fault → String
  | unexpectedCharacter c => "unexpected character " ++ Text.quoteChar c
  | unterminatedComment => "unterminated block comment"
  | unterminatedLiteral d => "unterminated " ++ literalName d ++ " literal"
  | invalidEscape e => "invalid escape in literal: " ++ e.message
  | invalidCharLiteral => "character literal must contain exactly one character"
  | alreadyFinished => "scanner already produced the end-of-input token"

def help? : Fault → Option String
  | unterminatedComment => some "add `*/` to close the comment"
  | unterminatedLiteral d =>
    some ("close the literal with `" ++ d.toString ++ "` before the end of the line")
  | invalidEscape _ =>
    some "valid escapes are \\n \\t \\r \\0 \\\\ \\\" \\' \\xHH and \\u\x7b...\x7d"
  | invalidCharLiteral => some "use double quotes for text longer than one character"
  | unexpectedCharacter _ | alreadyFinished => none

def label? : Fault → Option String
  | unexpectedCharacter _ => some "not part of any token"
  | _ => none

def cause? : Fault → Option String
  | invalidEscape e => some e.message
  | _ => none

end Fault

structure ScanError where
  fault : Fault
  position : Position
  deriving DecidableEq

end XorScan
