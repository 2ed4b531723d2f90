import XorScan.Escape

namespace XorScan

/-- What ends the reading of a literal: its closing quote, the end of the line or of the text, or a
backslash that begins no escape. -/
inductive LiteralEnd where
  | closed
  | cutOff
  | badEscape (reason : EscapeError)
  deriving DecidableEq

/-- The inside of a literal: the characters that it stands for, how many characters write them, and
what ends it. -/
structure LiteralBody where
  value : List Char
  size : Nat
  ending : LiteralEnd
  deriving DecidableEq

namespace LiteralBody

def push (v : Char) (n : Nat) (b : LiteralBody) : LiteralBody :=
  ⟨v :: b.value, b.size + n, b.ending⟩

/-- A backslash at the end of a line escapes nothing. -/
def atLineEnd : List Char → Bool
  | [] => true
  | c :: _ => c == '\n'

def read (d : Char) : List Char → LiteralBody
  | [] => ⟨[], 0, .cutOff⟩
  | c :: r =>
    if c = '\n' then ⟨[], 0, .cutOff⟩
    else if c = d then ⟨[], 0, .closed⟩
    else if c = '\\' then
      if atLineEnd r then ⟨[], 0, .cutOff⟩
      else
        match Escape.decode r with
        | .error e => ⟨[], 0, .badEscape e⟩
        | .ok (v, n) => (read d (r.drop n)).push v (n + 1)
    else (read d r).push c 1
termination_by s => s.length

theorem read_size_lt {d : Char} {s : List Char} (h : (read d s).ending ≠ .cutOff) :
    (read d s).size < s.length := by
  fun_induction read d s with
  | case6 r _ v n hn _ _ ih =>
    obtain ⟨-, hn⟩ := Escape.decode_size hn
    have := ih h
    simp only [push, List.length_drop, List.length_cons] at this ⊢
    omega
  | case7 c r _ _ _ ih => simpa [push] using ih h
  | _ => simp_all

end LiteralBody

end XorScan
