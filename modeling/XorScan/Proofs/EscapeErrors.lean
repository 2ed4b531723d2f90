import XorScan.Proofs.EscapeGrammar

namespace XorScan.EscapeErrors

open Escape CharRun EscapeGrammar

theorem decodeUnicode_error {r : List Char} {e : EscapeError} (h : decodeUnicode r = .error e) :
    e = .malformedUnicode ∨ ∃ v, e = .invalidCodepoint v := by
  unfold decodeUnicode at h
  split at h
  · dsimp only at h
    split at h
    · cases h
      exact .inl rfl
    · split at h
      · cases h
      · cases h
        exact .inr ⟨_, rfl⟩
  · cases h
    exact .inl rfl

theorem decodeHex_error {r : List Char} {e : EscapeError} (h : decodeHex r = .error e) :
    e = .malformedHex := by
  unfold decodeHex at h
  split at h
  · split at h
    · cases h
    · cases h
      rfl
  · cases h
    rfl

theorem decodeUnicode_append_error {r : List Char} {e : EscapeError}
    (h : decodeUnicode r = .error e) (he : e ≠ .malformedUnicode) (t : List Char) :
    decodeUnicode (r ++ t) = .error e := by
  unfold decodeUnicode at h
  split at h
  next r =>
    obtain ⟨ds, x, rfl, hr⟩ := exists_isRun Hex.isDigit r
    change decodeUnicode ('{' :: (ds ++ x)) = .error e at h
    rw [decodeUnicode_of_run hr] at h
    by_cases hx : x.head? = some '}'
    · obtain ⟨y, rfl⟩ := List.head?_eq_some_iff.mp hx
      have hr' : IsRun Hex.isDigit ds ('}' :: y ++ t) := ⟨hr.all, hr.stop⟩
      rw [List.cons_append, List.append_assoc, decodeUnicode_of_run hr', ← h]
      rfl
    · rw [if_pos (.inr (.inr hx))] at h
      cases h
      exact absurd rfl he
  · cases h
    exact absurd rfl he

theorem decode_eq_incomplete_iff {r : List Char} : decode r = .error .incomplete ↔ r = [] := by
  constructor
  · intro h
    cases r with
    | nil => rfl
    | cons c r =>
      simp only [decode] at h
      split at h
      · cases h
      · split at h
        · cases decodeHex_error h
        · split at h
          · obtain he | ⟨v, he⟩ := decodeUnicode_error h <;> cases he
          · cases h
  · rintro rfl
    rfl

/-- More text can complete an escape that is cut off, and no other that is wrong. -/
theorem decode_append_error {r : List Char} {e : EscapeError} (h : decode r = .error e)
    (hi : e ≠ .incomplete) (hx : e ≠ .malformedHex) (hu : e ≠ .malformedUnicode) (t : List Char) :
    decode (r ++ t) = .error e := by
  cases r with
  | nil =>
    cases h
    exact absurd rfl hi
  | cons c r =>
    simp only [decode, List.cons_append] at h ⊢
    split at h
    · cases h
    · split at h
      · exact absurd (decodeHex_error h) hx
      · rw [if_neg ‹_›]
        split at h
        next hc =>
          rw [if_pos hc]
          exact decodeUnicode_append_error h hu t
        next hc =>
          rw [if_neg hc]
          exact h

theorem decode_open_unicode {ds : List Char} (h : ∀ d ∈ ds, Hex.isDigit d) :
    decode ('u' :: '{' :: ds) = .error .malformedUnicode := by
  have hr : IsRun Hex.isDigit ds [] := ⟨h, by simp⟩
  have hd := decodeUnicode_of_run hr
  rw [List.append_nil] at hd
  simp [decode, letter?, hd]

theorem decode_cut {e x : List Char} {v : Char} (h : IsEscape e v) (hp : x <+: e) (hx : x ≠ []) :
    x = e ∨ decode x = .error .malformedHex ∨ decode x = .error .malformedUnicode := by
  obtain ⟨y, hy⟩ := hp
  obtain ⟨c, x, rfl⟩ := List.exists_cons_of_ne_nil hx
  cases h with
  | letter h =>
    obtain ⟨rfl, hxy⟩ := List.cons.inj hy
    obtain ⟨rfl, -⟩ := List.append_eq_nil_iff.mp hxy
    exact .inl rfl
  | hex ha hb =>
    obtain ⟨rfl, hxy⟩ := List.cons.inj hy
    cases x with
    | nil => exact .inr (.inl rfl)
    | cons c x =>
      cases x with
      | nil => exact .inr (.inl rfl)
      | cons d x =>
        simp only [List.append_eq, List.cons_append, List.cons.injEq, List.append_eq_nil_iff] at hxy
        obtain ⟨rfl, rfl, rfl, -⟩ := hxy
        exact .inl rfl
  | @unicode ds h hpos hle hv =>
    obtain ⟨rfl, hxy⟩ := List.cons.inj hy
    cases x with
    | nil => exact .inr (.inr rfl)
    | cons c x =>
      simp only [List.append_eq, List.cons_append, List.cons.injEq] at hxy
      obtain ⟨rfl, hxy⟩ := hxy
      obtain ⟨a, rfl, -⟩ | ⟨a, rfl, ha⟩ := List.append_eq_append_iff.mp hxy
      · exact .inr (.inr (decode_open_unicode fun d hd => h d (List.mem_append_left a hd)))
      · cases a with
        | nil =>
          rw [List.append_nil]
          exact .inr (.inr (decode_open_unicode h))
        | cons b a =>
          simp only [List.cons_append, List.cons.injEq, List.nil_eq, List.append_eq_nil_iff] at ha
          obtain ⟨rfl, rfl, -⟩ := ha
          exact .inl rfl

end XorScan.EscapeErrors
