namespace XorScan.Hex

def digit? (c : Char) : Option Nat :=
  if '0' ≤ c ∧ c ≤ '9' then some (c.toNat - '0'.toNat)
  else if 'a' ≤ c ∧ c ≤ 'f' then some (c.toNat - 'a'.toNat + 10)
  else if 'A' ≤ c ∧ c ≤ 'F' then some (c.toNat - 'A'.toNat + 10)
  else none

def isDigit (c : Char) : Bool := (digit? c).isSome

def value (ds : List Char) : Nat := ds.foldl (fun n d => 16 * n + (digit? d).getD 0) 0

def lower (n : Nat) : List Char := Nat.toDigits 16 n

def upper (n : Nat) : List Char := (lower n).map Char.toUpper

end XorScan.Hex
