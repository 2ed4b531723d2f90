import XorScan.Proofs.EscapeForms

namespace XorScan.Unescaping

open Escape EscapeBytes EscapeErrors EscapeForms EscapeGrammar HexNumerals LiteralSpelling StoredText Text

def find? : List Char → Option Nat
  | [] => none
  | c :: s => if c = '\\' then some 0 else (find? s).map (c.utf8Size + ·)

/-- What is found in a text: no backslash, a bad escape, or an escape with the text before it, the
character that it stands for and the text behind it. -/
inductive Round where
  | done
  | bad (e : EscapeError)
  | taken (front : List Char) (c : Char) (rest : List Char)

def round? (s : List Char) : Option Round :=
  match find? s with
  | none => some .done
  | some i => do
    let (front, _) ← splitBytes? i s
    let (_, behind) ← splitBytes? (i + 1) s
    match ← decode? behind with
    | .error e => return .bad e
    | .ok (c, n) =>
      let (_, rest) ← splitBytes? (i + 1 + n) s
      return .taken front c rest

section Round

variable {f r : List Char}

theorem find?_eq_none {s : List Char} (h : '\\' ∉ s) : find? s = none := by
  induction s with
  | nil => rfl
  | cons c s ih =>
    rw [find?, if_neg (List.ne_of_not_mem_cons h).symm, ih (List.not_mem_of_not_mem_cons h)]
    rfl

theorem find?_front (hf : '\\' ∉ f) (r : List Char) : find? (f ++ '\\' :: r) = some (byteLength f) := by
  induction f with
  | nil => rfl
  | cons c f ih =>
    rw [List.cons_append, find?, if_neg (List.ne_of_not_mem_cons hf).symm,
      ih (List.not_mem_of_not_mem_cons hf)]
    rfl

theorem splitBytes?_escape (f e t : List Char) :
    splitBytes? (byteLength f + 1 + byteLength e) (f ++ '\\' :: (e ++ t)) =
      some (f ++ '\\' :: e, t) := by
  have hsplit := splitBytes?_byteLength (f ++ '\\' :: e) t
  have hsize : Char.utf8Size '\\' = 1 := rfl
  rw [byteLength_append, byteLength_cons, hsize, ← Nat.add_assoc, List.append_assoc,
    List.cons_append] at hsplit
  exact hsplit

theorem round?_bad (hf : '\\' ∉ f) {e : EscapeError} (h : decode r = .error e) :
    round? (f ++ '\\' :: r) = some (.bad e) := by
  have hbehind := splitBytes?_escape f [] r
  rw [byteLength_nil, Nat.add_zero, List.nil_append] at hbehind
  simp only [round?, find?_front hf, splitBytes?_byteLength, hbehind, decode?_eq, h,
    Option.bind_eq_bind, Option.bind_some, Option.pure_def]

theorem round?_taken (hf : '\\' ∉ f) {c : Char} {n : Nat} (h : decode r = .ok (c, n)) :
    round? (f ++ '\\' :: r) = some (.taken f c (r.drop n)) := by
  have hbehind := splitBytes?_escape f [] r
  rw [byteLength_nil, Nat.add_zero, List.nil_append] at hbehind
  obtain ⟨e, t, rfl, rfl, he⟩ := decode_eq_ok_iff.mp h
  have hrest := splitBytes?_escape f e t
  rw [byteLength_ascii (isEscape_ascii he)] at hrest
  simp only [round?, find?_front hf, splitBytes?_byteLength, hbehind, decode?_eq, h, hrest,
    Option.bind_eq_bind, Option.bind_some, Option.pure_def, List.drop_left]

theorem round?_cases (s : List Char) :
    ('\\' ∉ s ∧ round? s = some .done) ∨
      ∃ f r, s = f ++ '\\' :: r ∧ '\\' ∉ f ∧
        ((∃ e, decode r = .error e ∧ round? s = some (.bad e)) ∨
          ∃ c n, decode r = .ok (c, n) ∧ round? s = some (.taken f c (r.drop n))) := by
  by_cases hs : '\\' ∈ s
  · obtain ⟨f, r, rfl, hf⟩ := List.eq_append_cons_of_mem hs
    refine .inr ⟨f, r, rfl, hf, ?_⟩
    cases h : decode r with
    | error e => exact .inl ⟨e, rfl, round?_bad hf h⟩
    | ok p => exact .inr ⟨p.1, p.2, rfl, round?_taken hf h⟩
  · exact .inl ⟨hs, by rw [round?, find?_eq_none hs]⟩

theorem round?_shorter {s front rest : List Char} {c : Char}
    (h : round? s = some (.taken front c rest)) : rest.length < s.length := by
  obtain ⟨-, hs⟩ | ⟨f, r, rfl, -, ⟨e, -, hs⟩ | ⟨v, n, -, hs⟩⟩ := round?_cases s
  · rw [hs] at h
    cases h
  · rw [hs] at h
    cases h
  · rw [hs] at h
    cases h
    rw [List.length_append, List.length_cons, List.length_drop]
    omega

end Round

def loop? (out s : List Char) : Option (Except EscapeError (List Char)) :=
  match _h : round? s with
  | none => none
  | some .done => some (.ok (out ++ s))
  | some (.bad e) => some (.error e)
  | some (.taken front c rest) => loop? (out ++ front ++ [c]) rest
termination_by s.length
decreasing_by exact round?_shorter ‹_›

inductive Resolved where
  | borrowed (s : List Char)
  | owned (s : List Char)

/-- Resolves the escapes of a text by bytes, and makes no new text where there are none. -/
def unescape? (s : List Char) : Option (Except EscapeError Resolved) :=
  if isPlain s then some (.ok (.borrowed s)) else (loop? [] s).map (·.map .owned)

section Except

variable {ε α β γ : Type}

theorem map_eq_ok {g : α → β} {x : Except ε α} {b : β} (h : x.map g = .ok b) :
    ∃ a, x = .ok a ∧ g a = b := by
  cases x with
  | error e => cases h
  | ok a =>
    cases h
    exact ⟨a, rfl, rfl⟩

theorem map_eq_error {g : α → β} {x : Except ε α} {e : ε} (h : x.map g = .error e) :
    x = .error e := by
  cases x with
  | error e' =>
    cases h
    rfl
  | ok a => cases h

theorem map_map (g : β → γ) (f : α → β) (x : Except ε α) :
    (x.map f).map g = x.map fun a => g (f a) := by
  cases x <;> rfl

end Except

section Step

variable {c v : Char} {n : Nat} {r s : List Char}

theorem unescape_verbatim (hc : c ≠ '\\') (s : List Char) :
    unescape (c :: s) = (unescape s).map (c :: ·) := by
  rw [unescape, if_neg hc]

theorem unescape_escape (h : decode r = .ok (v, n)) :
    unescape ('\\' :: r) = (unescape (r.drop n)).map (v :: ·) := by
  rw [unescape, if_pos rfl, h]

theorem unescape_bad {e : EscapeError} (h : decode r = .error e) :
    unescape ('\\' :: r) = .error e := by
  rw [unescape, if_pos rfl, h]

theorem unescape_plain (h : '\\' ∉ s) : unescape s = .ok s := by
  induction s with
  | nil => rw [unescape]
  | cons c s ih =>
    rw [unescape_verbatim (List.ne_of_not_mem_cons h).symm, ih (List.not_mem_of_not_mem_cons h)]
    rfl

theorem unescape_escape_append (h : decode r = .ok (v, n)) (b : List Char) :
    unescape ('\\' :: r ++ b) = (unescape (r.drop n ++ b)).map (v :: ·) := by
  rw [List.cons_append, unescape_escape (decode_append_ok h b),
    List.drop_append_of_le_length (decode_size h).2]

end Step

section Append

variable {a x : List Char}

theorem unescape_append (h : unescape a = .ok x) (b : List Char) :
    unescape (a ++ b) = (unescape b).map (x ++ ·) := by
  fun_induction unescape a generalizing x with
  | case1 =>
    cases h
    cases hb : unescape b <;> rw [List.nil_append, hb] <;> rfl
  | case2 => cases h
  | case3 r v n hdec ih =>
    obtain ⟨y, hy, rfl⟩ := map_eq_ok h
    rw [unescape_escape_append hdec, ih hy, map_map]
    rfl
  | case4 c r hc ih =>
    obtain ⟨y, hy, rfl⟩ := map_eq_ok h
    rw [List.cons_append, unescape_verbatim hc, ih hy, map_map]
    rfl

/-- The first escape that no text behind it can complete decides the error. -/
theorem unescape_append_error {e : EscapeError} (h : unescape a = .error e)
    (hi : e ≠ .incomplete) (hx : e ≠ .malformedHex) (hu : e ≠ .malformedUnicode) (b : List Char) :
    unescape (a ++ b) = .error e := by
  fun_induction unescape a with
  | case1 => cases h
  | case2 r e' hdec =>
    cases h
    exact unescape_bad (decode_append_error hdec hi hx hu b)
  | case3 r v n hdec ih =>
    rw [unescape_escape_append hdec, ih (map_eq_error h)]
    rfl
  | case4 c r hc ih =>
    rw [List.cons_append, unescape_verbatim hc, ih (map_eq_error h)]
    rfl

end Append

section Loop

variable {out s : List Char}

theorem loop?_done (h : round? s = some .done) : loop? out s = some (.ok (out ++ s)) := by
  unfold loop?
  split <;> simp_all

theorem loop?_bad {e : EscapeError} (h : round? s = some (.bad e)) :
    loop? out s = some (.error e) := by
  unfold loop?
  split <;> simp_all

theorem loop?_taken {f r : List Char} {c : Char} (h : round? s = some (.taken f c r)) :
    loop? out s = loop? (out ++ f ++ [c]) r := by
  conv_lhs => unfold loop?
  split <;> simp_all

/-- Resolving by bytes never cuts a character apart, and resolves as by characters. -/
theorem loop?_eq (out s : List Char) : loop? out s = some ((unescape s).map (out ++ ·)) := by
  -- What an escape leaves is no part of the text that a structural induction would reach.
  induction hk : s.length using Nat.strong_induction_on generalizing out s with
  | _ k ih =>
    subst hk
    obtain ⟨hs, hround⟩ | ⟨f, r, rfl, hf, ⟨e, hdec, hround⟩ | ⟨c, n, hdec, hround⟩⟩ := round?_cases s
    · rw [loop?_done hround, unescape_plain hs]
      rfl
    · rw [loop?_bad hround, unescape_append (unescape_plain hf), unescape_bad hdec]
      rfl
    · rw [loop?_taken hround, ih _ (round?_shorter hround) _ _ rfl,
        unescape_append (unescape_plain hf), unescape_escape hdec, map_map, map_map]
      simp only [List.append_assoc, List.singleton_append]

theorem isPlain_iff : isPlain s = true ↔ '\\' ∉ s := by
  simp [isPlain]

theorem unescape?_eq (s : List Char) :
    unescape? s = some ((unescape s).map fun v => if isPlain s then .borrowed v else .owned v) := by
  by_cases hs : isPlain s = true
  · rw [unescape?, if_pos hs, unescape_plain (isPlain_iff.mp hs)]
    simp only [Except.map, if_pos hs]
  · rw [unescape?, if_neg hs, loop?_eq, Option.map_some, map_map]
    simp only [List.nil_append, if_neg hs]

end Loop

section Size

variable {v : Char} {n : Nat} {r s x : List Char}

theorem utf8Size_le_two (h : v.toNat < 0x800) : v.utf8Size ≤ 2 := by
  have hle : v.val ≤ 0x7ff := UInt32.le_iff_toNat_le.mpr (Nat.le_of_lt_succ h)
  by_cases hone : v.val ≤ 127
  · rw [Char.utf8Size_eq_one_iff.mpr hone]
    decide
  · exact Nat.le_of_eq (Char.utf8Size_eq_two_iff.mpr ⟨UInt32.not_le.mp hone, hle⟩)

theorem utf8Size_lt (h : decode r = .ok (v, n)) : v.utf8Size < 1 + n := by
  obtain ⟨e, t, rfl, rfl, he⟩ := decode_eq_ok_iff.mp h
  cases he with
  | letter h =>
    have hall : ∀ p ∈ letters, p.1.utf8Size < 2 := by decide
    exact hall _ (mem_letters h)
  | @hex a b ha hb =>
    have hlt : Hex.value [a, b] < 16 ^ 2 := numeral_lt (numeral_iff.mpr ⟨by simp [ha, hb], rfl⟩)
    have hvalid : (Hex.value [a, b]).isValidChar := .inl (Nat.lt_trans hlt (by decide))
    have htwo : (Char.ofNat (Hex.value [a, b])).utf8Size ≤ 2 :=
      utf8Size_le_two (by rw [toNat_ofNat hvalid]; exact Nat.lt_trans hlt (by decide))
    have hlen : ['x', a, b].length = 3 := rfl
    omega
  | @unicode ds h hpos =>
    have hfour := Char.utf8Size_le_four (Char.ofNat (Hex.value ds))
    have hone := List.length_pos_of_ne_nil hpos
    simp only [List.cons_append, List.length_cons, List.length_append, List.length_nil]
    omega

theorem byteLength_escape (h : decode r = .ok (v, n)) :
    byteLength ('\\' :: r) = 1 + n + byteLength (r.drop n) := by
  obtain ⟨e, t, rfl, rfl, he⟩ := decode_eq_ok_iff.mp h
  have hsize : Char.utf8Size '\\' = 1 := rfl
  rw [List.drop_left, byteLength_cons, byteLength_append, byteLength_ascii (isEscape_ascii he), hsize,
    Nat.add_assoc]

theorem byteLength_unescape_le (h : unescape s = .ok x) : byteLength x ≤ byteLength s := by
  fun_induction unescape s generalizing x with
  | case1 =>
    cases h
    exact Nat.le_refl _
  | case2 => cases h
  | case3 r v n hdec ih =>
    obtain ⟨y, hy, rfl⟩ := map_eq_ok h
    rw [byteLength_cons, byteLength_escape hdec]
    exact Nat.add_le_add (Nat.le_of_lt (utf8Size_lt hdec)) (ih hy)
  | case4 c r hc ih =>
    obtain ⟨y, hy, rfl⟩ := map_eq_ok h
    exact Nat.add_le_add_left (ih hy) _

/-- A text gets shorter by every escape. -/
theorem byteLength_unescape_lt (h : unescape s = .ok x) (hs : '\\' ∈ s) :
    byteLength x < byteLength s := by
  obtain ⟨f, r, rfl, hf⟩ := List.eq_append_cons_of_mem hs
  rw [unescape_append (unescape_plain hf)] at h
  obtain ⟨y, hy, rfl⟩ := map_eq_ok h
  cases hdec : decode r with
  | error e =>
    rw [unescape_bad hdec] at hy
    cases hy
  | ok p =>
    obtain ⟨v, n⟩ := p
    rw [unescape_escape hdec] at hy
    obtain ⟨z, hz, rfl⟩ := map_eq_ok hy
    rw [byteLength_append, byteLength_append, byteLength_cons, byteLength_escape hdec]
    have hrest := byteLength_unescape_le hz
    have hlt := utf8Size_lt hdec
    omega

theorem byteLength_unescape_eq_iff (h : unescape s = .ok x) :
    byteLength x = byteLength s ↔ '\\' ∉ s := by
  constructor
  · intro heq hs
    exact absurd heq (Nat.ne_of_lt (byteLength_unescape_lt h hs))
  · intro hs
    rw [unescape_plain hs] at h
    cases h
    rfl

end Size

theorem unescape?_borrowed_iff {s : List Char} :
    unescape? s = some (.ok (.borrowed s)) ↔ '\\' ∉ s := by
  rw [← isPlain_iff]
  constructor
  · intro h
    by_contra hs
    rw [unescape?, if_neg hs, loop?_eq, Option.map_some, map_map] at h
    obtain ⟨x, -, hx⟩ := map_eq_ok (Option.some.inj h)
    cases hx
  · intro hs
    rw [unescape?, if_pos hs]

/-- Texts are resolved piece by piece, and the first escape that stays bad decides the error. No
character is cut apart. A text never grows, and stays as it is just where it has no backslash. -/
theorem unescape_homomorphic (a b : List Char) :
    (∀ x, unescape a = .ok x →
      (∀ y, unescape b = .ok y → unescape (a ++ b) = .ok (x ++ y)) ∧
        ∀ e, unescape b = .error e → unescape (a ++ b) = .error e) ∧
      (∀ e, unescape a = .error e → ((∃ c, e = .unknown c) ∨ ∃ v, e = .invalidCodepoint v) →
        unescape (a ++ b) = .error e) ∧
      unescape? a =
        some ((unescape a).map fun v => if isPlain a then .borrowed v else .owned v) ∧
      ∀ x, unescape a = .ok x →
        byteLength x ≤ byteLength a ∧ (byteLength x = byteLength a ↔ '\\' ∉ a) ∧
          (unescape? a = some (.ok (.borrowed a)) ↔ '\\' ∉ a) := by
  refine ⟨?_, ?_, unescape?_eq a, ?_⟩
  · intro x hx
    have happend := unescape_append hx b
    constructor
    · intro y hy
      rw [happend, hy]
      rfl
    · intro e he
      rw [happend, he]
      rfl
  · rintro e he (⟨c, rfl⟩ | ⟨v, rfl⟩)
    · exact unescape_append_error he nofun nofun nofun b
    · exact unescape_append_error he nofun nofun nofun b
  · intro x hx
    exact ⟨byteLength_unescape_le hx, byteLength_unescape_eq_iff hx, unescape?_borrowed_iff⟩

def escapedBackslash : List Char := ['\\', '\\']

def strayEscape : List Char := ['é', '\\', 'q']

theorem unescape_homomorphic_escapedBackslash :
    unescape (escapedBackslash ++ ['n']) = .ok (['\\'] ++ ['n']) ∧
      unescape (escapedBackslash ++ strayEscape) = .error (.unknown 'q') ∧
      unescape (strayEscape ++ escapedBackslash) = .error (.unknown 'q') ∧
      byteLength ['\\'] ≤ byteLength escapedBackslash := by
  have hback : unescape escapedBackslash = .ok ['\\'] := by
    rw [escapedBackslash, unescape_escape rfl, List.drop_one, List.tail_cons,
      unescape_plain List.not_mem_nil]
    rfl
  have hplain : unescape ['n'] = .ok ['n'] := unescape_plain (by decide)
  have hstray : unescape strayEscape = .error (.unknown 'q') := by
    rw [strayEscape, unescape_verbatim (by decide), unescape_bad rfl]
    rfl
  exact ⟨((unescape_homomorphic _ ['n']).1 _ hback).1 _ hplain,
    ((unescape_homomorphic _ strayEscape).1 _ hback).2 _ hstray,
    (unescape_homomorphic _ escapedBackslash).2.1 _ hstray (.inl ⟨'q', rfl⟩),
    ((unescape_homomorphic _ []).2.2.2 _ hback).1⟩

end XorScan.Unescaping
