import XorScan.Hex
import XorScan.Text.Unprintable

namespace XorScan.Text

/-- One character inside quotes `q`: a backslash goes before the quote and the backslash, a few
controls have letters, and what cannot be shown is written by its number. -/
def quoteUnit (q c : Char) : List Char :=
  if c = '\x00' then ['\\', '0']
  else if c = '\t' then ['\\', 't']
  else if c = '\r' then ['\\', 'r']
  else if c = '\n' then ['\\', 'n']
  else if c = '\\' then ['\\', '\\']
  else if c = q then ['\\', q]
  else if isUnprintable c then ['\\', 'u', '{'] ++ Hex.lower c.toNat ++ ['}']
  else [c]

def quoteChar (c : Char) : String :=
  String.ofList (['\''] ++ quoteUnit '\'' c ++ ['\''])

def quote (s : List Char) : String :=
  String.ofList (['"'] ++ s.flatMap (quoteUnit '"') ++ ['"'])

end XorScan.Text
