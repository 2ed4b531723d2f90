import XorScan.Lexeme

namespace XorScan.CommentExtent

open Lexeme

/-- The text ends with the first `*/` that occurs in it. -/
def Closes (w : List Char) : Prop :=
  ['*', '/'] <:+ w ∧ ¬ ['*', '/'] <:+: w.dropLast

theorem closes_mark : Closes ['*', '/'] := by
  refine ⟨List.suffix_rfl, ?_⟩
  intro h
  exact absurd h.length_le (by decide)

theorem Closes.eq_nil {w : List Char} (h : Closes ('*' :: '/' :: w)) : w = [] := by
  cases w with
  | nil => rfl
  | cons c w =>
    refine absurd (List.IsPrefix.isInfix ?_) h.2
    simp [List.dropLast_cons_of_ne_nil]

theorem closes_cons {c : Char} {w : List Char} (h : ¬ ['*', '/'] <+: c :: w) :
    Closes (c :: w) ↔ Closes w := by
  cases w with
  | nil =>
    constructor
    · intro hc
      exact absurd hc.1.length_le (by simp)
    · intro hc
      exact absurd hc.1.length_le (by simp)
  | cons x w =>
    have hs : ['*', '/'] ≠ c :: x :: w := fun he => h (he ▸ List.prefix_rfl)
    have hp : ¬ ['*', '/'] <+: c :: (x :: w).dropLast := by
      intro hp
      exact h (hp.trans ((List.prefix_cons_inj c).mpr (List.dropLast_prefix _)))
    rw [Closes, Closes, List.suffix_cons_iff, List.dropLast_cons_of_ne_nil (by simp),
      List.infix_cons_iff]
    simp only [hs, hp, false_or]

theorem closingLength?_append {w : List Char} (h : Closes w) (t : List Char) :
    closingLength? (w ++ t) = some w.length := by
  induction w with
  | nil => exact absurd h.1.length_le (by simp)
  | cons c w ih =>
    by_cases hp : ['*', '/'] <+: c :: w
    · obtain ⟨x, hx⟩ := hp
      rw [← hx] at h ⊢
      have hn : x = [] := h.eq_nil
      simp [closingLength?, hn]
    · have hw := (closes_cons hp).mp h
      have hc : ¬ (c = '*' ∧ (w ++ t).head? = some '/') := by
        rintro ⟨rfl, ht⟩
        cases w with
        | nil => exact absurd hw.1.length_le (by simp)
        | cons x w => simp_all
      rw [List.cons_append, closingLength?, if_neg hc, ih hw]
      rfl

theorem closes_of_closingLength? {s : List Char} {n : Nat} (h : closingLength? s = some n) :
    ∃ w t, s = w ++ t ∧ w.length = n ∧ Closes w := by
  fun_induction closingLength? s generalizing n with
  | case1 => cases h
  | case2 c r hc =>
    cases h
    obtain ⟨t, rfl⟩ := List.head?_eq_some_iff.mp hc.2
    exact ⟨['*', '/'], t, by simp [hc.1], rfl, closes_mark⟩
  | case3 c r hc ih =>
    obtain ⟨m, hm, rfl⟩ := Option.map_eq_some_iff.mp h
    obtain ⟨w, t, rfl, rfl, hw⟩ := ih hm
    refine ⟨c :: w, t, rfl, rfl, (closes_cons ?_).mpr hw⟩
    rintro ⟨x, hx⟩
    cases hx
    simp at hc

theorem closingLength?_eq_none_iff {s : List Char} :
    closingLength? s = none ↔ ¬ ['*', '/'] <:+: s := by
  fun_induction closingLength? s with
  | case1 => simp
  | case2 c r hc =>
    obtain ⟨t, rfl⟩ := List.head?_eq_some_iff.mp hc.2
    simp [hc.1, List.infix_cons_iff]
  | case3 c r hc ih =>
    have hp : ¬ ['*', '/'] <+: c :: r := by
      rintro ⟨x, hx⟩
      cases hx
      simp at hc
    simp [ih, List.infix_cons_iff, hp]

def EndsLine (t : List Char) : Prop := t = [] ∨ ∃ x, t = '\n' :: x ∨ t = '\r' :: '\n' :: x

/-- The line goes on over all of `w` and ends before `t`. -/
def IsLine (w t : List Char) : Prop :=
  EndsLine t ∧ ∀ u v, w = u ++ v → v ≠ [] → ¬ EndsLine (v ++ t)

theorem endsLine_cons {c : Char} {r : List Char} :
    EndsLine (c :: r) ↔ c = '\n' ∨ c = '\r' ∧ r.head? = some '\n' := by
  simp [EndsLine, List.head?_eq_some_iff, exists_or]

theorem isLine_cons {c : Char} {w t : List Char} :
    IsLine (c :: w) t ↔ ¬ EndsLine (c :: (w ++ t)) ∧ IsLine w t := by
  constructor
  · intro h
    refine ⟨h.2 [] (c :: w) rfl (by simp), h.1, ?_⟩
    intro u v huv hv
    exact h.2 (c :: u) v (by rw [huv, List.cons_append]) hv
  · intro h
    refine ⟨h.2.1, ?_⟩
    intro u v huv hv
    cases u with
    | nil =>
      rw [← List.nil_append v, ← huv]
      exact h.1
    | cons x u =>
      cases huv
      exact h.2.2 u v rfl hv

theorem lineLength_append {w t : List Char} (h : IsLine w t) : lineLength (w ++ t) = w.length := by
  induction w with
  | nil =>
    cases t with
    | nil => rfl
    | cons c r => simp [lineLength, endsLine_cons.mp h.1]
  | cons c w ih =>
    obtain ⟨hc, hw⟩ := isLine_cons.mp h
    rw [endsLine_cons] at hc
    rw [List.cons_append, lineLength, if_neg hc, ih hw, List.length_cons]

theorem exists_isLine (r : List Char) : ∃ w t, r = w ++ t ∧ IsLine w t := by
  fun_induction lineLength r with
  | case1 => exact ⟨[], [], rfl, .inl rfl, by simp⟩
  | case2 c r hc => exact ⟨[], c :: r, rfl, endsLine_cons.mpr hc, by simp⟩
  | case3 c r hc ih =>
    obtain ⟨w, t, rfl, h⟩ := ih
    exact ⟨c :: w, t, rfl, isLine_cons.mpr ⟨mt endsLine_cons.mp hc, h⟩⟩

theorem isLine_of_notMem {w t : List Char} (hw : '\n' ∉ w) (ht : EndsLine t)
    (hn : t.head? ≠ some '\n') : IsLine w t := by
  refine ⟨ht, ?_⟩
  rintro u v rfl hv he
  obtain ⟨c, v, rfl⟩ := List.exists_cons_of_ne_nil hv
  obtain rfl | ⟨rfl, hd⟩ := endsLine_cons.mp he
  · simp at hw
  · cases v with
    | nil => exact hn hd
    | cons d v =>
      cases hd
      simp at hw

end XorScan.CommentExtent
