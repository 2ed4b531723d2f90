import XorScan.Toml.Number

namespace XorScan.Toml

def isLeapYear (year : Nat) : Bool := year % 4 = 0 && (year % 100 ≠ 0 || year % 400 = 0)

def daysInMonth (year month : Nat) : Nat :=
  if month = 2 then (if isLeapYear year then 29 else 28)
  else if month ∈ [4, 6, 9, 11] then 30
  else 31

namespace Reader

def field (n low high : Nat) : Reader Nat := do
  let v := decimalValue (← exactly n Char.isDigit)
  if low ≤ v ∧ v ≤ high then return v else failure

def date : Reader Unit := do
  let year ← field 4 0 9999
  char '-'
  let month ← field 2 1 12
  char '-'
  discard (field 2 1 (daysInMonth year month))

def time : Reader Unit := do
  discard (field 2 0 23)
  char ':'
  discard (field 2 0 59)
  char ':'
  discard (field 2 0 60)
  discard (opt (char '.' *> takeWhile1 Char.isDigit))

def zone : Reader Unit :=
  discard (satisfy fun c => c == 'Z' || c == 'z') <|> do
    discard (satisfy fun c => c == '+' || c == '-')
    discard (field 2 0 23)
    char ':'
    discard (field 2 0 59)

def dateTime : Reader Unit :=
  (do
    date
    discard (opt do
      discard (satisfy fun c => c == 'T' || c == 't' || c == ' ')
      time
      opt zone)) <|> time

end Reader

end XorScan.Toml
