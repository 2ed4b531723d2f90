import XorScan.CharClass
import XorScan.Fault
import XorScan.Kind
import XorScan.LiteralBody

namespace XorScan

/-- The longest piece at the front of a text that is a token: what it is, and how many characters
behind the first belong to it. -/
structure Lexeme where
  kind : Kind
  tail : Nat
  deriving DecidableEq

/-- Why no token stands at the front of a text, and how many characters before the fault. -/
structure Refusal where
  fault : Fault
  distance : Nat
  deriving DecidableEq

namespace Lexeme

/-- A carriage return is a line end only with the line feed behind it. -/
def newline (c : Char) (r : List Char) : Except Refusal Lexeme :=
  if c = '\n' then .ok ⟨.trivia .newline, 0⟩
  else if r.head? = some '\n' then .ok ⟨.trivia .newline, 1⟩
  else .error ⟨.unexpectedCharacter c, 0⟩

theorem newline_tail_le {c : Char} {r : List Char} {l : Lexeme} (h : newline c r = .ok l) :
    l.tail ≤ r.length := by
  unfold newline at h
  split at h
  · cases h
    exact Nat.zero_le _
  · split at h
    next hr =>
      cases h
      cases r with
      | nil => cases hr
      | cons => simp
    · cases h

def lineLength : List Char → Nat
  | [] => 0
  | c :: r =>
    if c = '\n' ∨ c = '\r' ∧ r.head? = some '\n' then 0 else lineLength r + 1

theorem lineLength_le (s : List Char) : lineLength s ≤ s.length := by
  fun_induction lineLength s <;> simp_all

def closingLength? : List Char → Option Nat
  | [] => none
  | c :: r =>
    if c = '*' ∧ r.head? = some '/' then some 2 else (closingLength? r).map (· + 1)

theorem closingLength?_le {s : List Char} {n : Nat} (h : closingLength? s = some n) :
    n ≤ s.length := by
  fun_induction closingLength? s generalizing n with
  | case1 => cases h
  | case2 c r hc =>
    cases h
    cases r with
    | nil => simp at hc
    | cons => simp
  | case3 c r hc ih =>
    obtain ⟨m, hm, rfl⟩ := Option.map_eq_some_iff.mp h
    simpa using ih hm

def symbol (c : Char) (r : List Char) : Except Refusal Lexeme :=
  match Symbol.longest? (c :: r) with
  | some s => .ok ⟨.symbol s, s.spelling.length - 1⟩
  | none => .error ⟨.unexpectedCharacter c, 0⟩

theorem symbol_tail_le {c : Char} {r : List Char} {l : Lexeme} (h : symbol c r = .ok l) :
    l.tail ≤ r.length := by
  unfold symbol at h
  split at h
  next y hy =>
    cases h
    have hle := Symbol.length_longest?_le hy
    simp only [List.length_cons] at hle
    exact Nat.sub_le_iff_le_add.mpr hle
  · cases h

/-- A slash begins a comment or a symbol. Block comments do not nest. -/
def slash (c : Char) (r : List Char) : Except Refusal Lexeme :=
  match r with
  | '/' :: _ => .ok ⟨.trivia .comment, lineLength r⟩
  | '*' :: b =>
    match closingLength? b with
    | some n => .ok ⟨.trivia .comment, n + 1⟩
    | none => .error ⟨.unterminatedComment, 0⟩
  | _ => symbol c r

theorem slash_tail_le {c : Char} {r : List Char} {l : Lexeme} (h : slash c r = .ok l) :
    l.tail ≤ r.length := by
  unfold slash at h
  split at h
  · cases h
    exact lineLength_le _
  next b =>
    split at h
    next n hn =>
      cases h
      exact Nat.succ_le_succ (closingLength?_le hn)
    · cases h
  · exact symbol_tail_le h

def word (c : Char) (r : List Char) : Lexeme :=
  let w := r.takeWhile CharClass.isIdentContinue
  ⟨(Kind.reserved? (String.ofList (c :: w))).getD (.literal .identifier), w.length⟩

/-- A point belongs to a number only between digits. -/
def number (r : List Char) : Lexeme :=
  let n := (r.takeWhile Char.isDigit).length
  match r.drop n with
  | '.' :: d :: f =>
    if d.isDigit then
      ⟨.literal .decimal, n + 1 + ((d :: f).takeWhile Char.isDigit).length⟩
    else ⟨.literal .number, n⟩
  | _ => ⟨.literal .number, n⟩

theorem number_tail_le (r : List Char) : (number r).tail ≤ r.length := by
  have hn := (List.takeWhile_prefix Char.isDigit (l := r)).length_le
  unfold number
  dsimp only
  split
  next d f h =>
    have hl := congrArg List.length h
    have hf := (List.takeWhile_prefix Char.isDigit (l := d :: f)).length_le
    simp only [List.length_drop, List.length_cons] at hl hf
    split <;> dsimp only <;> omega
  · exact hn

def quoted (d : Char) (r : List Char) : Except Refusal Lexeme :=
  let b := LiteralBody.read d r
  match b.ending with
  | .cutOff => .error ⟨.unterminatedLiteral d, 0⟩
  | .badEscape e => .error ⟨.invalidEscape e, b.size + 1⟩
  | .closed =>
    if d = '"' then .ok ⟨.literal .string, b.size + 1⟩
    else if b.value.length = 1 then .ok ⟨.literal .character, b.size + 1⟩
    else .error ⟨.invalidCharLiteral, 0⟩

theorem quoted_tail_le {d : Char} {r : List Char} {l : Lexeme} (h : quoted d r = .ok l) :
    l.tail ≤ r.length := by
  unfold quoted at h
  dsimp only at h
  split at h
  · cases h
  · cases h
  next he =>
    have hlt : (LiteralBody.read d r).size < r.length :=
      LiteralBody.read_size_lt (by simp [he])
    split at h
    · cases h
      exact hlt
    · split at h
      · cases h
        exact hlt
      · cases h

def front (c : Char) (r : List Char) : Except Refusal Lexeme :=
  match CharClass.of c with
  | .newline => newline c r
  | .space => .ok ⟨.trivia .space, 0⟩
  | .tab => .ok ⟨.trivia .tab, 0⟩
  | .slash => slash c r
  | .symbol => symbol c r
  | .identStart => .ok (word c r)
  | .digit => .ok (number r)
  | .quote => quoted c r
  | .other => .error ⟨.unexpectedCharacter c, 0⟩

theorem front_tail_le {c : Char} {r : List Char} {l : Lexeme} (h : front c r = .ok l) :
    l.tail ≤ r.length := by
  unfold front at h
  split at h
  · exact newline_tail_le h
  · cases h
    exact Nat.zero_le _
  · cases h
    exact Nat.zero_le _
  · exact slash_tail_le h
  · exact symbol_tail_le h
  · cases h
    exact (List.takeWhile_prefix CharClass.isIdentContinue (l := r)).length_le
  · cases h
    exact number_tail_le r
  · exact quoted_tail_le h
  · cases h

end Lexeme

end XorScan
