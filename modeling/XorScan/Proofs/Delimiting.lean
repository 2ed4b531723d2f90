import Mathlib.Logic.Function.Basic

namespace XorScan.Delimiting

variable {α β : Type} {f : α → List Char} {g : β → List Char} {ok stop : List Char → Prop}

/-- What `f` writes ends by itself: before the texts of `ok`, what is written and what stands behind
it can be told apart. -/
def Delimits (f : α → List Char) (ok : List Char → Prop) : Prop :=
  ∀ ⦃a b : α⦄ ⦃x y : List Char⦄, ok x → ok y → f a ++ x = f b ++ y → a = b ∧ x = y

theorem delimits_of_read {read : List Char → Option (α × List Char)}
    (h : ∀ a x, ok x → read (f a ++ x) = some (a, x)) : Delimits f ok := by
  intro a b x y hx hy he
  have hr := h a x hx
  rw [he, h b y hy] at hr
  obtain ⟨rfl, rfl⟩ := Prod.mk.inj (Option.some.inj hr)
  exact ⟨rfl, rfl⟩

theorem Delimits.comp (h : Delimits f ok) {e : β → α} (he : Function.Injective e) :
    Delimits (fun b => f (e b)) ok := by
  intro a b x y hx hy hxy
  obtain ⟨hab, rfl⟩ := h hx hy hxy
  exact ⟨he hab, rfl⟩

theorem Delimits.between (h : Delimits f ok) (l r : List Char) (hr : ∀ x, stop x → ok (r ++ x)) :
    Delimits (fun a => l ++ f a ++ r) stop := by
  intro a b x y hx hy hxy
  simp only [List.append_assoc] at hxy
  obtain ⟨rfl, hr⟩ := h (hr x hx) (hr y hy) (List.append_cancel_left hxy)
  exact ⟨rfl, List.append_cancel_left hr⟩

theorem Delimits.pair (hf : Delimits f ok) (hg : Delimits g stop)
    (hok : ∀ b x, stop x → ok (g b ++ x)) : Delimits (fun p : α × β => f p.1 ++ g p.2) stop := by
  rintro ⟨a, b⟩ ⟨a', b'⟩ x y hx hy hxy
  simp only [List.append_assoc] at hxy
  obtain ⟨rfl, hb⟩ := hf (hok b x hx) (hok b' y hy) hxy
  obtain ⟨rfl, rfl⟩ := hg hx hy hb
  exact ⟨rfl, rfl⟩

theorem ok_flatMap_append (hf : ∀ a x, ok (f a ++ x)) (hok : ∀ x, stop x → ok x) (as : List α)
    {x : List Char} (hx : stop x) : ok (as.flatMap f ++ x) := by
  cases as with
  | nil => exact hok x hx
  | cons a as =>
    rw [List.flatMap_cons, List.append_assoc]
    exact hf a _

/-- Members in a row end where a text begins that no member begins. -/
theorem Delimits.row (h : Delimits f ok) (hf : ∀ a x, ok (f a ++ x)) (hok : ∀ x, stop x → ok x)
    (hstop : ∀ a x, ¬ stop (f a ++ x)) : Delimits (fun as : List α => as.flatMap f) stop := by
  intro as bs x y hx hy hxy
  dsimp only at hxy
  induction as generalizing bs with
  | nil =>
    cases bs with
    | nil => exact ⟨rfl, hxy⟩
    | cons b bs =>
      rw [List.flatMap_nil, List.nil_append, List.flatMap_cons, List.append_assoc] at hxy
      exact absurd (hxy ▸ hx) (hstop b _)
  | cons a as ih =>
    cases bs with
    | nil =>
      rw [List.flatMap_nil, List.nil_append, List.flatMap_cons, List.append_assoc] at hxy
      exact absurd (hxy ▸ hy) (hstop a _)
    | cons b bs =>
      simp only [List.flatMap_cons, List.append_assoc] at hxy
      obtain ⟨rfl, htail⟩ := h (ok_flatMap_append hf hok as hx) (ok_flatMap_append hf hok bs hy) hxy
      obtain ⟨rfl, rfl⟩ := ih htail
      exact ⟨rfl, rfl⟩

theorem intercalate_cons (sep l : List Char) (ls : List (List Char)) :
    sep.intercalate (l :: ls) = l ++ ls.flatMap (sep ++ ·) := by
  induction ls generalizing l with
  | nil => simp
  | cons m ls ih => rw [List.intercalate_cons_cons, ih, List.flatMap_cons, List.append_assoc,
      List.append_assoc]

theorem Delimits.intercalate (h : Delimits f ok) {sep : List Char} (hsep : ∀ x, ok (sep ++ x))
    (hok : ∀ x, stop x → ok x) (hstop : ∀ x, ¬ stop (sep ++ x)) (hf : ∀ a x, ¬ stop (f a ++ x)) :
    Delimits (fun as : List α => sep.intercalate (as.map f)) stop := by
  have hmember : Delimits (fun a => sep ++ f a) ok := by
    simpa using h.between sep [] fun _ hx => hx
  have hfront : ∀ a x, ok (sep ++ f a ++ x) := by
    intro a x
    rw [List.append_assoc]
    exact hsep _
  have htail : Delimits (fun as : List α => as.flatMap fun a => sep ++ f a) stop := by
    refine hmember.row hfront hok fun a x => ?_
    rw [List.append_assoc]
    exact hstop _
  have hpair := h.pair htail fun as x hx => ok_flatMap_append hfront hok as hx
  have hcons : ∀ a as x, sep.intercalate ((a :: as).map f) ++ x =
      f a ++ ((as.flatMap fun b => sep ++ f b) ++ x) := by
    intro a as x
    rw [List.map_cons, intercalate_cons, List.flatMap_map, List.append_assoc]
  intro as bs x y hx hy hxy
  -- An empty row is told from another by what stands behind it, so that case is not one of `hpair`.
  dsimp only at hxy
  cases as with
  | nil =>
    cases bs with
    | nil => exact ⟨rfl, hxy⟩
    | cons b bs =>
      rw [hcons, List.map_nil, List.intercalate_nil, List.nil_append] at hxy
      exact absurd (hxy ▸ hx) (hf b _)
  | cons a as =>
    cases bs with
    | nil =>
      rw [hcons, List.map_nil, List.intercalate_nil, List.nil_append] at hxy
      exact absurd (hxy ▸ hy) (hf a _)
    | cons b bs =>
      rw [hcons, hcons, ← List.append_assoc, ← List.append_assoc] at hxy
      obtain ⟨hab, rfl⟩ := hpair (a := (a, as)) (b := (b, bs)) hx hy hxy
      obtain ⟨rfl, rfl⟩ := Prod.mk.inj hab
      exact ⟨rfl, rfl⟩

end XorScan.Delimiting
