import XorScan.Hex
import XorScan.Toml.Reader

namespace XorScan.Toml

namespace Reader

def digits (p : Char → Bool) : Reader (List Char) := do
  let d ← satisfy p
  let ds ← many (satisfy p <|> (char '_' *> satisfy p))
  return d :: ds

def decimalDigits : Reader (List Char) := digits Char.isDigit

def sign : Reader Bool := do
  let c ← opt (satisfy fun c => c == '+' || c == '-')
  return c == some '-'

def wholePart : Reader (List Char) := (char '0' *> pure ['0']) <|> decimalDigits

def decimalValue (ds : List Char) : Nat := ds.foldl (fun n d => 10 * n + (d.toNat - '0'.toNat)) 0

def basedInteger (mark : Char) (bits : Nat) : Reader Unit := do
  text ['0', mark]
  let ds ← digits fun c => (Hex.digit? c).any (· < Nat.pow 2 bits)
  let n := ds.foldl (fun n d => Nat.pow 2 bits * n + (Hex.digit? d).getD 0) 0
  if n < Nat.pow 2 63 then return () else failure

def decimalInteger : Reader Unit := do
  let negative ← sign
  let ds ← wholePart
  if decimalValue ds < Nat.pow 2 63 + (if negative then 1 else 0) then return () else failure

def integer : Reader Unit :=
  basedInteger 'x' 4 <|> basedInteger 'o' 3 <|> basedInteger 'b' 1 <|> decimalInteger

/-- Whether `m * 10 ^ e` is too large for a double: it is no nearer to the largest one than to the
next power of two. -/
def exceedsDouble (m : Nat) (e : Int) : Bool :=
  let size := ((Nat.toDigits 10 m).length : Int) + e
  if m = 0 ∨ size < 309 then false
  else if 310 < size then true
  else Nat.pow 2 1024 - Nat.pow 2 970 ≤ m * Nat.pow 10 e.toNat / Nat.pow 10 (-e).toNat

def fraction : Reader (List Char) := char '.' *> decimalDigits

def exponent : Reader Int := do
  discard (satisfy fun c => c == 'e' || c == 'E')
  let negative ← sign
  let n := decimalValue (← decimalDigits)
  return if negative then -n else n

def decimalFloat : Reader Unit := do
  let negative ← sign
  let whole ← wholePart
  let (frac, exp) ← (fun e => ([], e)) <$> exponent <|> do
    let f ← fraction
    let e ← opt exponent
    return (f, e.getD 0)
  if !negative && exceedsDouble (decimalValue (whole ++ frac)) (exp - frac.length) then failure
  else return ()

def specialFloat : Reader Unit := do
  discard sign
  text ['i', 'n', 'f'] <|> text ['n', 'a', 'n']

def number : Reader Unit := decimalFloat <|> specialFloat <|> integer

end Reader

end XorScan.Toml
