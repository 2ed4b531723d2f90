import XorScan.Escape
import XorScan.Proofs.CharRun

namespace XorScan.EscapeGrammar

open Escape CharRun

/-- The texts that may follow a backslash, each with the character that it stands for. -/
inductive IsEscape : List Char → Char → Prop
  | letter {c v : Char} (h : letter? c = some v) : IsEscape [c] v
  | hex {a b : Char} (ha : Hex.isDigit a) (hb : Hex.isDigit b) :
      IsEscape ['x', a, b] (Char.ofNat (Hex.value [a, b]))
  | unicode {ds : List Char} (h : ∀ d ∈ ds, Hex.isDigit d) (hpos : ds ≠ []) (hle : ds.length ≤ 6)
      (hv : (Hex.value ds).isValidChar) :
      IsEscape ('u' :: '{' :: ds ++ ['}']) (Char.ofNat (Hex.value ds))

theorem decode_append {e : List Char} {v : Char} (h : IsEscape e v) (t : List Char) :
    decode (e ++ t) = .ok (v, e.length) := by
  cases h with
  | letter h => simp [decode, h]
  | hex ha hb => simp [decode, letter?, decodeHex, ha, hb]
  | @unicode ds h hpos hle hv =>
    have hr : IsRun Hex.isDigit ds ('}' :: t) := ⟨h, by simp +decide⟩
    have hl : ds.length ≠ 0 := by simpa using hpos
    simp [decode, letter?, decodeUnicode, hr.takeWhile, hl, Nat.not_lt.mpr hle, hv]

theorem decodeUnicode_of_run {ds t : List Char} (h : IsRun Hex.isDigit ds t) :
    decodeUnicode ('{' :: (ds ++ t)) =
      if ds.length = 0 ∨ 6 < ds.length ∨ t.head? ≠ some '}' then .error .malformedUnicode
      else if (Hex.value ds).isValidChar then .ok (Char.ofNat (Hex.value ds), ds.length + 3)
      else .error (.invalidCodepoint (Hex.value ds)) := by
  have hnext : (ds ++ t)[ds.length]? = t.head? := by
    rw [List.getElem?_append_right (Nat.le_refl _), Nat.sub_self, List.head?_eq_getElem?]
  rw [decodeUnicode]
  simp only [h.takeWhile, hnext]

theorem isEscape_of_decodeHex {r : List Char} {v : Char} {n : Nat}
    (h : decodeHex r = .ok (v, n)) : ∃ e t, 'x' :: r = e ++ t ∧ e.length = n ∧ IsEscape e v := by
  unfold decodeHex at h
  split at h
  next a b t =>
    split at h
    next hab =>
      cases h
      exact ⟨['x', a, b], t, rfl, rfl, .hex hab.1 hab.2⟩
    · cases h
  · cases h

theorem isEscape_of_decodeUnicode {r : List Char} {v : Char} {n : Nat}
    (h : decodeUnicode r = .ok (v, n)) :
    ∃ e t, 'u' :: r = e ++ t ∧ e.length = n ∧ IsEscape e v := by
  unfold decodeUnicode at h
  split at h
  next r =>
    obtain ⟨ds, t, rfl, hr⟩ := exists_isRun Hex.isDigit r
    change decodeUnicode ('{' :: (ds ++ t)) = .ok (v, n) at h
    rw [decodeUnicode_of_run hr] at h
    split at h
    · cases h
    next hc =>
      simp only [not_or, Decidable.not_not, Nat.not_lt] at hc
      obtain ⟨hpos, hle, hclose⟩ := hc
      obtain ⟨t, rfl⟩ := List.head?_eq_some_iff.mp hclose
      split at h
      next hv =>
        cases h
        exact ⟨'u' :: '{' :: ds ++ ['}'], t, by simp, by simp,
          .unicode hr.all (by simpa using hpos) hle hv⟩
      · cases h
  · cases h

/-- Decoding succeeds exactly where an escape stands at the front. -/
theorem decode_eq_ok_iff {r : List Char} {v : Char} {n : Nat} :
    decode r = .ok (v, n) ↔ ∃ e t, r = e ++ t ∧ e.length = n ∧ IsEscape e v := by
  constructor
  · intro h
    cases r with
    | nil => simp [decode] at h
    | cons c r =>
      simp only [decode] at h
      split at h
      next hc =>
        cases h
        exact ⟨[c], r, rfl, rfl, .letter hc⟩
      · split at h
        next hx => exact hx ▸ isEscape_of_decodeHex h
        · split at h
          next hu => exact hu ▸ isEscape_of_decodeUnicode h
          · cases h
  · rintro ⟨e, t, rfl, rfl, he⟩
    exact decode_append he t

theorem isEscape_iff {e : List Char} {v : Char} : IsEscape e v ↔ decode e = .ok (v, e.length) := by
  constructor
  · intro h
    simpa using decode_append h []
  · intro h
    obtain ⟨e', t, he, hl, h'⟩ := decode_eq_ok_iff.mp h
    have ht : t = [] := by
      have := congrArg List.length he
      simp only [List.length_append] at this
      exact List.length_eq_zero_iff.mp (by omega)
    rw [he, ht, List.append_nil]
    exact h'

end XorScan.EscapeGrammar
