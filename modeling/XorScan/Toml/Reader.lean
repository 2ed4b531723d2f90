namespace XorScan.Toml

abbrev Reader := StateT (List Char) Option

namespace Reader

def satisfy (p : Char → Bool) : Reader Char
  | c :: s => if p c then some (c, s) else none
  | [] => none

def char (c : Char) : Reader Unit := discard (satisfy (· == c))

def text (t : List Char) : Reader Unit := fun s =>
  if t.isPrefixOf s then some ((), s.drop t.length) else none

def takeWhile (p : Char → Bool) : Reader (List Char) := fun s =>
  some (s.takeWhile p, s.dropWhile p)

def takeWhile1 (p : Char → Bool) : Reader (List Char) := do
  let c ← satisfy p
  let cs ← takeWhile p
  return c :: cs

def exactly (n : Nat) (p : Char → Bool) : Reader (List Char) := fun s =>
  let cs := s.take n
  if cs.length = n ∧ cs.all p then some (cs, s.drop n) else none

def opt {α : Type} (r : Reader α) : Reader (Option α) := (some <$> r) <|> pure none

def peek (p : List Char → Bool) : Reader Unit := fun s => if p s then some ((), s) else none

def many {α : Type} (r : Reader α) : Reader (List α) := fun s =>
  match r s with
  | none => some ([], s)
  | some (a, t) =>
    if t.length < s.length then (many r t).map fun (as, u) => (a :: as, u) else some ([a], t)
termination_by s => s.length

def sepBy1 {α : Type} (r : Reader α) (sep : Reader Unit) : Reader (List α) := do
  let a ← r
  let as ← many (sep *> r)
  return a :: as

def endOfText : Reader Unit := peek List.isEmpty

def newline : Reader Unit := text ['\n'] <|> text ['\r', '\n']

def isBlank (c : Char) : Bool := c == ' ' || c == '\t'

def blanks : Reader Unit := discard (takeWhile isBlank)

/-- The characters that a line may hold: controls other than the tab are refused everywhere. -/
def isLineChar (c : Char) : Bool := c == '\t' || (0x20 ≤ c.toNat && c.toNat != 0x7F)

def comment : Reader Unit := do
  char '#'
  discard (takeWhile isLineChar)

def lineEnd : Reader Unit := do
  blanks
  discard (opt comment)
  newline <|> endOfText

def gap : Reader Unit :=
  discard (many (discard (satisfy isBlank) <|> newline <|> (comment *> newline)))

end Reader

end XorScan.Toml
