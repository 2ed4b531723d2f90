import XorScan.Dump
import XorScan.Failure
import XorScan.Toml.Document

namespace XorScan

structure Config where
  verbose : Bool
  trivia : Bool
  format : OutputFormat
  deriving DecidableEq

namespace Config

open Toml

def standard : Config := ⟨false, true, .text⟩

def boolean? : Node → Option Bool
  | .boolean b => some b
  | _ => none

/-- A format is named by a text, or by the only key of a table with nothing behind it. -/
def format? : Node → Option OutputFormat
  | .text s => OutputFormat.ofName? s
  | .table _ [(name, .table _ [])] => OutputFormat.ofName? name
  | .table _ [(name, .array [])] => OutputFormat.ofName? name
  | _ => none

def setting {α : Type} (missing : α) (read? : Node → Option α) : Option Node → Option α
  | none => some missing
  | some n => read? n

def listing? (forTrivia forFormat : Option Node) : Option (Bool × OutputFormat) := do
  let trivia ← setting standard.trivia boolean? forTrivia
  let format ← setting standard.format format? forFormat
  return (trivia, format)

def tokens? : Node → Option (Bool × OutputFormat)
  | .table _ es => listing? (Entries.get? es "trivia") (Entries.get? es "format")
  | .array items => listing? items[0]? items[1]?
  | .dateTime => listing? none none
  | _ => none

/-- Reads a configuration. Unknown keys mean nothing, whatever their value. -/
def parse? (s : List Char) : Option Config := do
  let es ← Toml.parse? s
  let verbose ← setting standard.verbose boolean? (es.get? "verbose")
  let (trivia, format) ← setting (standard.trivia, standard.format) tokens? (es.get? "tokens")
  return ⟨verbose, trivia, format⟩

/-- Reads the text of a configuration, or tells in words what is wrong with it. -/
abbrev TextReader := List Char → Except String Config

/-- Here the words are only those that every such message begins with. -/
def read : TextReader := fun s =>
  match parse? s with
  | some c => .ok c
  | none => .error "TOML parse error"

def loadFrom (reader : TextReader) (files : Files) (path : String) : Except Failure Config :=
  if files.contains path then
    match files.readText path with
    | .error e => .error (.io e)
    | .ok s =>
      match reader s with
      | .ok c => .ok c
      | .error detail => .error (.configMalformed (path ++ ": " ++ detail))
  else .error (.configMissing path)

def fileName : String := "xorc.toml"

def candidates (userPath? : Option String) : List String := fileName :: userPath?.toList

/-- Reads the named configuration file, or else the first of the usual ones that exists, or else
takes the standard settings. -/
def loadWith (reader : TextReader) (files : Files) (userPath? path? : Option String) :
    Except Failure Config :=
  match path? with
  | some path => loadFrom reader files path
  | none =>
    match (candidates userPath?).find? files.contains with
    | some path => loadFrom reader files path
    | none => .ok standard

def load : Files → Option String → Option String → Except Failure Config := loadWith read

end Config

end XorScan
