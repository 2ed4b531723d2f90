import XorScan.Toml.DateTime
import XorScan.Toml.Node
import XorScan.Toml.Quotation

namespace XorScan.Toml

namespace Reader

def boolean : Reader Bool :=
  (text ['t', 'r', 'u', 'e'] *> pure true) <|> (text ['f', 'a', 'l', 's', 'e'] *> pure false)

def scalar : Reader Node :=
  (fun s => .text (String.ofList s)) <$> quotation <|> .boolean <$> boolean <|>
    (dateTime *> pure .dateTime) <|> (number *> pure .number)

def array (item : Reader Node) : Reader Node := do
  char '['
  let items ← opt (sepBy1 (gap *> item <* gap) (char ',') <* opt (char ','))
  gap
  char ']'
  return .array (items.getD [])

def pair (item : Reader Node) : Reader (List String × Node) := do
  let path ← key
  char '='
  blanks
  let v ← item
  blanks
  return (path, v)

def inlineTable (item : Reader Node) : Reader Node := do
  char '{'
  let pairs ← opt (sepBy1 (pair item) (char ','))
  blanks
  char '}'
  let es ← Entries.insertAll [] (pairs.getD [])
  return .table .inline es

/-- A value with at most `depth` levels of brackets and braces. -/
def value : Nat → Reader Node
  | 0 => scalar
  | depth + 1 => array (value depth) <|> inlineTable (value depth) <|> scalar

end Reader

end XorScan.Toml
