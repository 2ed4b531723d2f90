import XorScan.Hex
import XorScan.Toml.Reader

namespace XorScan.Toml

namespace Reader

def codepoint (n : Nat) : Reader Char := do
  let ds ← exactly n Hex.isDigit
  let v := Hex.value ds
  if v.isValidChar then return Char.ofNat v else failure

def escape : Reader Char := do
  match ← satisfy fun _ => true with
  | 'b' => return '\x08'
  | 'f' => return '\x0c'
  | 'n' => return '\n'
  | 'r' => return '\r'
  | 't' => return '\t'
  | '"' => return '"'
  | '\\' => return '\\'
  | 'u' => codepoint 4
  | 'U' => codepoint 8
  | _ => failure

def basicChar : Reader Char :=
  satisfy (fun c => isLineChar c && c != '"' && c != '\\') <|> (char '\\' *> escape)

def basic : Reader (List Char) := do
  char '"'
  let s ← many basicChar
  char '"'
  return s

def verbatim : Reader (List Char) := do
  char '\''
  let s ← takeWhile fun c => isLineChar c && c != '\''
  char '\''
  return s

def innerQuotes (q : Char) : Reader (List Char) := do
  let qs ← takeWhile1 (· == q)
  if qs.length < 3 then return qs else failure

def closingQuotes (q : Char) : Reader (List Char) := do
  let qs ← takeWhile1 (· == q)
  if 3 ≤ qs.length ∧ qs.length ≤ 5 then return qs.drop 3 else failure

/-- A backslash before the end of a line drops all blanks and line ends up to the next content. -/
def continuation : Reader (List Char) := do
  char '\\'
  blanks
  newline
  discard (many (discard (satisfy isBlank) <|> newline))
  return []

/-- What lies between three quotes `q`, piece by piece. A line end directly behind the opening is
dropped, and every other one counts as a line feed. -/
def multiline (q : Char) (piece : Reader (List Char)) : Reader (List Char) := do
  text [q, q, q]
  discard (opt newline)
  let pieces ← many (innerQuotes q <|> piece <|> (newline *> pure ['\n']))
  let last ← closingQuotes q
  return pieces.flatten ++ last

def multilineBasic : Reader (List Char) :=
  multiline '"' (continuation <|> (fun c => [c]) <$> basicChar)

def multilineVerbatim : Reader (List Char) :=
  multiline '\'' (takeWhile1 fun c => isLineChar c && c != '\'')

def quotation : Reader (List Char) := multilineBasic <|> basic <|> multilineVerbatim <|> verbatim

def isBareChar (c : Char) : Bool := c.isAlphanum || c == '_' || c == '-'

def simpleKey : Reader String :=
  String.ofList <$> (basic <|> verbatim <|> takeWhile1 isBareChar)

/-- Keys that are joined by points. There are fewer than eighty of them. -/
def key : Reader (List String) := do
  let ks ← sepBy1 (blanks *> simpleKey <* blanks) (char '.')
  if ks.length < 80 then return ks else failure

end Reader

end XorScan.Toml
