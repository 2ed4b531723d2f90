import XorScan.Hex

namespace XorScan

inductive EscapeError where
  | incomplete
  | unknown (c : Char)
  | malformedHex
  | malformedUnicode
  | invalidCodepoint (value : Nat)
  deriving DecidableEq

def EscapeError.message : EscapeError → String
  | incomplete => "incomplete escape sequence"
  | unknown c => "unknown escape sequence `\\" ++ c.toString ++ "`"
  | malformedHex => "`\\x` must be followed by exactly two hex digits"
  | malformedUnicode => "`\\u` must be followed by `\x7b` one to six hex digits `\x7d`"
  | invalidCodepoint v => "`" ++ String.ofList (Hex.upper v) ++ "` is not a Unicode scalar value"

namespace Escape

def letter? : Char → Option Char
  | 'n' => some '\n'
  | 't' => some '\t'
  | 'r' => some '\r'
  | '0' => some '\x00'
  | '\\' => some '\\'
  | '"' => some '"'
  | '\'' => some '\''
  | _ => none

def decodeHex : List Char → Except EscapeError (Char × Nat)
  | a :: b :: _ =>
    if Hex.isDigit a ∧ Hex.isDigit b then .ok (Char.ofNat (Hex.value [a, b]), 3)
    else .error .malformedHex
  | _ => .error .malformedHex

def decodeUnicode : List Char → Except EscapeError (Char × Nat)
  | '{' :: r =>
    let ds := r.takeWhile Hex.isDigit
    let v := Hex.value ds
    if ds.length = 0 ∨ 6 < ds.length ∨ r[ds.length]? ≠ some '}' then .error .malformedUnicode
    else if v.isValidChar then .ok (Char.ofNat v, ds.length + 3)
    else .error (.invalidCodepoint v)
  | _ => .error .malformedUnicode

/-- Reads the escape at the front of what follows a backslash. The number counts the characters of
the escape, all of them ASCII. -/
def decode : List Char → Except EscapeError (Char × Nat)
  | [] => .error .incomplete
  | c :: r =>
    match letter? c with
    | some v => .ok (v, 1)
    | none =>
      if c = 'x' then decodeHex r
      else if c = 'u' then decodeUnicode r
      else .error (.unknown c)

theorem decode_size {r : List Char} {v : Char} {n : Nat} (h : decode r = .ok (v, n)) :
    0 < n ∧ n ≤ r.length := by
  cases r with
  | nil => simp [decode] at h
  | cons c r =>
    simp only [decode] at h
    split at h
    · cases h; simp
    · split at h
      · unfold decodeHex at h
        split at h
        · split at h
          · cases h; simp
          · cases h
        · cases h
      · split at h
        · unfold decodeUnicode at h
          split at h
          next r =>
            have hp := (List.takeWhile_prefix Hex.isDigit (l := r)).length_le
            dsimp only at h
            split at h
            · cases h
            next hc =>
              simp only [not_or, Decidable.not_not] at hc
              obtain ⟨hlt, -⟩ := List.getElem?_eq_some_iff.mp hc.2.2
              split at h
              · cases h; simp; omega
              · cases h
          · cases h
        · cases h

def unescape : List Char → Except EscapeError (List Char)
  | [] => .ok []
  | c :: r =>
    if c = '\\' then
      match decode r with
      | .error e => .error e
      | .ok (v, n) => (unescape (r.drop n)).map (v :: ·)
    else (unescape r).map (c :: ·)
termination_by s => s.length

def isPlain (s : List Char) : Bool := !s.contains '\\'

end Escape

end XorScan
