import XorScan.Hex

namespace XorScan.Json

def escapeChar (c : Char) : List Char :=
  if c = '"' then ['\\', '"']
  else if c = '\\' then ['\\', '\\']
  else if c = '\x08' then ['\\', 'b']
  else if c = '\x0c' then ['\\', 'f']
  else if c = '\n' then ['\\', 'n']
  else if c = '\r' then ['\\', 'r']
  else if c = '\t' then ['\\', 't']
  else if c.toNat < 0x20 then
    ['\\', 'u', '0', '0'] ++ List.replicate (2 - (Hex.lower c.toNat).length) '0' ++
      Hex.lower c.toNat
  else [c]

def string (s : List Char) : String :=
  String.ofList (['"'] ++ s.flatMap escapeChar ++ ['"'])

inductive Scalar where
  | text (s : List Char)
  | number (n : Nat)
  deriving DecidableEq

def Scalar.render : Scalar → String
  | text s => string s
  | number n => toString n

abbrev Record := List (String × Scalar)

def Record.compact (r : Record) : String :=
  "\x7b" ++ ",".intercalate (r.map fun (k, v) => string k.toList ++ ":" ++ v.render) ++ "\x7d"

def Record.pretty (r : Record) : String :=
  "  \x7b\n" ++ ",\n".intercalate (r.map fun (k, v) =>
    "    " ++ string k.toList ++ ": " ++ v.render) ++ "\n  \x7d"

def prettyArray (rs : List Record) : String :=
  match rs with
  | [] => "[]"
  | _ => "[\n" ++ ",\n".intercalate (rs.map Record.pretty) ++ "\n]"

end XorScan.Json
