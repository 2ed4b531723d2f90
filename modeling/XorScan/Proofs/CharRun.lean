namespace XorScan.CharRun

/-- A text is cut into `w` and `t` where its characters cease to satisfy `p`. -/
structure IsRun (p : Char → Bool) (w t : List Char) : Prop where
  all : ∀ c ∈ w, p c = true
  stop : ∀ c, t.head? = some c → p c = false

theorem IsRun.takeWhile {p : Char → Bool} {w t : List Char} (h : IsRun p w t) :
    (w ++ t).takeWhile p = w := by
  rw [List.takeWhile_append_of_pos h.all]
  cases t with
  | nil => simp
  | cons c t =>
    have hc : p c = false := h.stop c rfl
    rw [List.takeWhile_cons_of_neg (by simp [hc]), List.append_nil]

theorem IsRun.dropWhile {p : Char → Bool} {w t : List Char} (h : IsRun p w t) :
    (w ++ t).dropWhile p = t := by
  rw [List.dropWhile_append_of_pos h.all]
  cases t with
  | nil => rfl
  | cons c t =>
    have hc : p c = false := h.stop c rfl
    rw [List.dropWhile_cons_of_neg (by simp [hc])]

theorem IsRun.unique {p : Char → Bool} {w w' t t' : List Char} (h : IsRun p w t)
    (h' : IsRun p w' t') (he : w ++ t = w' ++ t') : w = w' ∧ t = t' := by
  have hw : w = w' := by rw [← h.takeWhile, he, h'.takeWhile]
  rw [hw] at he
  exact ⟨hw, List.append_cancel_left he⟩

theorem IsRun.length_le {p : Char → Bool} {w t x : List Char} (h : IsRun p w t)
    (hx : ∀ c ∈ x, p c = true) (hp : x <+: w ++ t) : x.length ≤ w.length := by
  obtain hxw | ⟨y, rfl⟩ := List.prefix_or_prefix_of_prefix hp (List.prefix_append w t)
  · exact hxw.length_le
  · cases y with
    | nil => simp
    | cons c y =>
      obtain ⟨z, rfl⟩ := (List.prefix_append_right_inj w).mp hp
      have hc := h.stop c rfl
      simp [hx c (by simp)] at hc

theorem exists_isRun (p : Char → Bool) (r : List Char) : ∃ w t, r = w ++ t ∧ IsRun p w t := by
  refine ⟨r.takeWhile p, r.dropWhile p, List.takeWhile_append_dropWhile.symm, ?_, ?_⟩
  · exact List.all_eq_true.mp List.all_takeWhile
  · intro c hc
    have h := List.head?_dropWhile_not p r
    rw [hc] at h
    exact h

end XorScan.CharRun
