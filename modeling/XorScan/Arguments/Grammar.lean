import XorScan.Dump

namespace XorScan.Arguments

inductive Level where
  | top
  | tokens
  | check
  deriving DecidableEq

inductive Argument where
  | verbose | config | noColor | help | version | format | noTrivia | input
  deriving DecidableEq

namespace Level

def subcommand? : String → Option Level
  | "tokens" => some tokens
  | "check" => some check
  | _ => none

def programName : Level → String
  | top => "xorc"
  | tokens => "xorc-tokens"
  | check => "xorc-check"

def long? (l : Level) : String → Option Argument
  | "verbose" => some .verbose
  | "config" => some .config
  | "no-color" => some .noColor
  | "help" => some .help
  | "version" => some .version
  | "format" => if l = tokens then some .format else none
  | "no-trivia" => if l = tokens then some .noTrivia else none
  | _ => none

def short? (l : Level) : Char → Option Argument
  | 'v' => some .verbose
  | 'c' => some .config
  | 'h' => some .help
  | 'V' => some .version
  | 'F' => if l = tokens then some .format else none
  | _ => none

end Level

namespace Argument

def takesValue : Argument → Bool
  | config | format | input => true
  | _ => false

/-- Paths are not empty, formats have names, and the rest is yes or no. -/
def admits (a : Argument) (v : String) : Bool :=
  match a with
  | config | input => v ≠ ""
  | format => (OutputFormat.ofName? v).isSome
  | _ => v = "true" || v = "false"

def variableName? : Argument → Option String
  | verbose => some "XORC_VERBOSE"
  | config => some "XORC_CONFIG"
  | noColor => some "XORC_NO_COLOR"
  | _ => none

end Argument

inductive Misuse where
  | argumentConflict
  | tooManyValues
  | invalidValue
  | unknownArgument
  | invalidSubcommand
  | missingSubcommand
  | missingInput
  | nothingGiven
  deriving DecidableEq

def Misuse.message : Misuse → String
  | argumentConflict => "an argument is given more than once"
  | tooManyValues => "a flag takes no value"
  | invalidValue => "a value is missing or not allowed"
  | unknownArgument => "unexpected argument"
  | invalidSubcommand => "unrecognized subcommand"
  | missingSubcommand => "a subcommand is required"
  | missingInput => "an input is required"
  | nothingGiven => "nothing to do"

inductive Halt where
  | help (l : Level)
  | version (l : Level)
  | misuse (m : Misuse)
  deriving DecidableEq

end XorScan.Arguments
