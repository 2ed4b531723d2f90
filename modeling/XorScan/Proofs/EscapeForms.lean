import XorScan.Proofs.EscapeBytes
import XorScan.Proofs.EscapeErrors

namespace XorScan.EscapeForms

open CharRun Escape EscapeBytes EscapeErrors EscapeGrammar HexNumerals LiteralSpelling StoredText

def TwoDigits (t : List Char) (v : Nat) : Prop :=
  ∃ a b u, t = a :: b :: u ∧ Numeral [a, b] v

/-- One to six hexadecimal digits in braces, `k` of them, write the number `v` in front of a text. -/
def Braced (t : List Char) (k v : Nat) : Prop :=
  ∃ ds u, t = '{' :: (ds ++ '}' :: u) ∧ ds.length = k ∧ 1 ≤ k ∧ k ≤ 6 ∧ Numeral ds v

/-- How the text behind a backslash is to be read: as a character and the length of its escape, or
as one of the errors. -/
inductive Reads : List Char → Except EscapeError (Char × Nat) → Prop
  | letter {c x : Char} {t : List Char} (h : (c, x) ∈ letters) : Reads (x :: t) (.ok (c, 1))
  | hex {c : Char} {t : List Char} (h : TwoDigits t c.toNat) : Reads ('x' :: t) (.ok (c, 3))
  | unicode {c : Char} {t : List Char} {k : Nat} (h : Braced t k c.toNat) :
      Reads ('u' :: t) (.ok (c, 3 + k))
  | incomplete : Reads [] (.error .incomplete)
  | malformedHex {t : List Char} (h : ∀ v, ¬ TwoDigits t v) :
      Reads ('x' :: t) (.error .malformedHex)
  | malformedUnicode {t : List Char} (h : ∀ k v, ¬ Braced t k v) :
      Reads ('u' :: t) (.error .malformedUnicode)
  | invalidCodepoint {t : List Char} {k v : Nat} (h : Braced t k v)
      (hv : 0xD800 ≤ v ∧ v ≤ 0xDFFF ∨ 0x10FFFF < v) :
      Reads ('u' :: t) (.error (.invalidCodepoint v))
  | unknown {c : Char} {t : List Char}
      (h : c ∉ ['n', 't', 'r', '0', '\\', '"', '\'', 'x', 'u']) :
      Reads (c :: t) (.error (.unknown c))

theorem mem_letters {c x : Char} (h : letter? x = some c) : (c, x) ∈ letters := by
  unfold letter? at h
  split at h <;> cases h <;> decide

theorem mem_map_letters {c : Char} :
    c ∈ letters.map Prod.snd ↔ ∃ v, letter? c = some v := by
  constructor
  · intro h
    obtain ⟨p, hp, rfl⟩ := List.mem_map.mp h
    exact ⟨p.1, letter?_of_mem hp⟩
  · rintro ⟨v, hv⟩
    exact List.mem_map.mpr ⟨(v, c), mem_letters hv, rfl⟩

theorem unknown_iff {c : Char} : c ∉ ['n', 't', 'r', '0', '\\', '"', '\'', 'x', 'u'] ↔
    letter? c = none ∧ c ≠ 'x' ∧ c ≠ 'u' := by
  have hlist : ['n', 't', 'r', '0', '\\', '"', '\'', 'x', 'u'] =
      letters.map Prod.snd ++ ['x', 'u'] := rfl
  rw [hlist, List.mem_append, mem_map_letters, not_or, not_exists,
    ← Option.eq_none_iff_forall_ne_some, List.mem_pair, not_or]

theorem isValidChar_iff {v : Nat} :
    v.isValidChar ↔ ¬ (0xD800 ≤ v ∧ v ≤ 0xDFFF ∨ 0x10FFFF < v) := by
  unfold Nat.isValidChar
  omega

section Hex

variable {t : List Char} {v : Nat}

theorem decodeHex_of_twoDigits (h : TwoDigits t v) : decodeHex t = .ok (Char.ofNat v, 3) := by
  obtain ⟨a, b, u, rfl, hab⟩ := h
  obtain ⟨hdigits, hvalue⟩ := hab.read
  rw [decodeHex, if_pos ⟨hdigits a (by simp), hdigits b (by simp)⟩, hvalue]

theorem TwoDigits.isValidChar (h : TwoDigits t v) : v.isValidChar := by
  obtain ⟨a, b, u, -, hab⟩ := h
  have hlt : v < 16 ^ 2 := numeral_lt hab
  exact .inl (Nat.lt_trans hlt (by decide))

theorem decodeHex_of_not (h : ∀ v, ¬ TwoDigits t v) : decodeHex t = .error .malformedHex := by
  unfold decodeHex
  split
  next a b u =>
    rw [if_neg]
    rintro ⟨ha, hb⟩
    exact h _ ⟨a, b, u, rfl, numeral_iff.mpr ⟨by simp [ha, hb], rfl⟩⟩
  · rfl

end Hex

section Unicode

variable {t : List Char} {k v : Nat}

theorem isRun_closed {ds : List Char} (h : ∀ d ∈ ds, Hex.isDigit d = true) (u : List Char) :
    IsRun Hex.isDigit ds ('}' :: u) := ⟨h, by simp +decide⟩

theorem decodeUnicode_of_braced (h : Braced t k v) :
    decodeUnicode t =
      if v.isValidChar then .ok (Char.ofNat v, 3 + k) else .error (.invalidCodepoint v) := by
  obtain ⟨ds, u, rfl, rfl, hpos, hle, hnum⟩ := h
  obtain ⟨hdigits, rfl⟩ := hnum.read
  have hgood : ¬ (ds.length = 0 ∨ 6 < ds.length ∨ ('}' :: u).head? ≠ some '}') := by
    simp only [List.head?_cons, ne_eq, not_true_eq_false, or_false]
    omega
  rw [decodeUnicode_of_run (isRun_closed hdigits u), if_neg hgood, Nat.add_comm 3]

theorem decodeUnicode_of_not (h : ∀ k v, ¬ Braced t k v) :
    decodeUnicode t = .error .malformedUnicode := by
  by_cases hopen : t.head? = some '{'
  · obtain ⟨r, rfl⟩ := List.head?_eq_some_iff.mp hopen
    obtain ⟨ds, u, rfl, hr⟩ := exists_isRun Hex.isDigit r
    rw [decodeUnicode_of_run hr, if_pos]
    by_contra hgood
    simp only [not_or, Decidable.not_not, Nat.not_lt] at hgood
    obtain ⟨hpos, hle, hclose⟩ := hgood
    obtain ⟨u, rfl⟩ := List.head?_eq_some_iff.mp hclose
    exact h _ _ ⟨ds, u, rfl, rfl, Nat.one_le_iff_ne_zero.mpr hpos, hle, numeral_iff.mpr ⟨hr.all, rfl⟩⟩
  · unfold decodeUnicode
    split
    · exact absurd rfl hopen
    · rfl

end Unicode

theorem decode_of_reads {r : List Char} {a : Except EscapeError (Char × Nat)} (h : Reads r a) :
    decode r = a := by
  cases h with
  | letter h => rw [decode, letter?_of_mem h]
  | @hex c t h =>
    have hread := decodeHex_of_twoDigits h
    rw [Char.ofNat_toNat] at hread
    exact hread
  | @unicode c t k h =>
    have hvalid : c.toNat.isValidChar := c.valid
    have hread := decodeUnicode_of_braced h
    rw [if_pos hvalid, Char.ofNat_toNat] at hread
    exact hread
  | incomplete => rfl
  | malformedHex h => exact decodeHex_of_not h
  | malformedUnicode h => exact decodeUnicode_of_not h
  | @invalidCodepoint t k v h hv =>
    have hread := decodeUnicode_of_braced h
    rw [if_neg fun hvalid => isValidChar_iff.mp hvalid hv] at hread
    exact hread
  | @unknown c t h =>
    obtain ⟨hnone, hx, hu⟩ := unknown_iff.mp h
    rw [decode, hnone]
    dsimp only
    rw [if_neg hx, if_neg hu]

theorem exists_reads (r : List Char) : ∃ a, Reads r a := by
  cases r with
  | nil => exact ⟨_, .incomplete⟩
  | cons c t =>
    cases hletter : letter? c with
    | some v => exact ⟨_, .letter (mem_letters hletter)⟩
    | none =>
      by_cases hx : c = 'x'
      · subst hx
        by_cases h : ∃ v, TwoDigits t v
        · obtain ⟨v, hv⟩ := h
          exact ⟨_, .hex (c := Char.ofNat v) ((toNat_ofNat hv.isValidChar).symm ▸ hv)⟩
        · exact ⟨_, .malformedHex (not_exists.mp h)⟩
      · by_cases hu : c = 'u'
        · subst hu
          by_cases h : ∃ k v, Braced t k v
          · obtain ⟨k, v, hv⟩ := h
            by_cases hvalid : v.isValidChar
            · exact ⟨_, .unicode (c := Char.ofNat v) ((toNat_ofNat hvalid).symm ▸ hv)⟩
            · exact ⟨_, .invalidCodepoint hv (not_not.mp (mt isValidChar_iff.mpr hvalid))⟩
          · exact ⟨_, .malformedUnicode fun k v hv => h ⟨k, v, hv⟩⟩
        · exact ⟨_, .unknown (unknown_iff.mpr ⟨hletter, hx, hu⟩)⟩

theorem decode_eq_iff {r : List Char} {a : Except EscapeError (Char × Nat)} :
    decode r = a ↔ Reads r a := by
  constructor
  · rintro rfl
    obtain ⟨a, ha⟩ := exists_reads r
    rw [decode_of_reads ha]
    exact ha
  · exact decode_of_reads

theorem isEscape_ascii {e : List Char} {v : Char} (h : IsEscape e v) : ∀ c ∈ e, c.toNat < 128 := by
  cases h with
  | letter h =>
    have hall : ∀ p ∈ letters, p.2.toNat < 128 := by decide
    intro c hc
    rw [List.mem_singleton.mp hc]
    exact hall _ (mem_letters h)
  | hex ha hb =>
    simp only [List.mem_cons, List.not_mem_nil, or_false, forall_eq_or_imp, forall_eq]
    exact ⟨by decide, lt_of_isDigit ha, lt_of_isDigit hb⟩
  | unicode h =>
    intro c hc
    simp only [List.cons_append, List.mem_cons, List.mem_append, List.not_mem_nil, or_false] at hc
    obtain rfl | rfl | hc | rfl := hc
    · decide
    · decide
    · exact lt_of_isDigit (h c hc)
    · decide

structure AsciiFront (r : List Char) (n : Nat) : Prop where
  within : n ≤ Text.byteLength r
  ascii : ∀ b ∈ (stored r).take n, b.toNat < 128

theorem asciiFront_append {e : List Char} (h : ∀ c ∈ e, c.toNat < 128) (t : List Char) :
    AsciiFront (e ++ t) e.length := by
  constructor
  · rw [Text.byteLength_append, byteLength_ascii h]
    exact Nat.le_add_right _ _
  · intro b hb
    have hlen : (stored e).length = e.length := by rw [length_stored, byteLength_ascii h]
    rw [stored_append, List.take_left' hlen, stored_ascii h] at hb
    obtain ⟨c, hc, rfl⟩ := List.mem_map.mp hb
    rw [toNat_byte (h c hc)]
    exact h c hc

theorem decode_append_ok {r : List Char} {c : Char} {n : Nat} (h : decode r = .ok (c, n))
    (t : List Char) : decode (r ++ t) = .ok (c, n) := by
  obtain ⟨e, u, rfl, rfl, he⟩ := decode_eq_ok_iff.mp h
  rw [List.append_assoc]
  exact decode_append he (u ++ t)

/-- The text behind a backslash is read as its form demands, and no character is cut apart. An
escape lies within the text, in ASCII, and stays the same whatever follows. -/
theorem decode_reads_exactly (r : List Char) :
    (∀ a, decode r = a ↔ Reads r a) ∧ decode? r = some (decode r) ∧
      ∀ c n, decode r = .ok (c, n) → AsciiFront r n ∧ ∀ t, decode (r ++ t) = .ok (c, n) := by
  refine ⟨fun _ => decode_eq_iff, decode?_eq r, ?_⟩
  intro c n h
  refine ⟨?_, decode_append_ok h⟩
  obtain ⟨e, u, rfl, rfl, he⟩ := decode_eq_ok_iff.mp h
  exact asciiFront_append (isEscape_ascii he) u

def accented : List Char := ['u', '{', 'E', '9', '}', 'é']

theorem decode_reads_exactly_accented :
    decode accented = .ok ('é', 5) ∧ AsciiFront accented 5 ∧
      ∀ t, decode (accented ++ t) = .ok ('é', 5) := by
  have h : decode accented = .ok ('é', 5) := rfl
  exact ⟨h, (decode_reads_exactly accented).2.2 'é' 5 h⟩

end XorScan.EscapeForms
