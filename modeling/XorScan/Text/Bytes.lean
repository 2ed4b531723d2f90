namespace XorScan.Text

def byteLength : List Char → Nat
  | [] => 0
  | c :: s => c.utf8Size + byteLength s

@[simp] theorem byteLength_nil : byteLength [] = 0 := rfl

@[simp] theorem byteLength_cons (c : Char) (s : List Char) :
    byteLength (c :: s) = c.utf8Size + byteLength s := rfl

theorem byteLength_append (s t : List Char) :
    byteLength (s ++ t) = byteLength s + byteLength t := by
  induction s with
  | nil => simp
  | cons c s ih => simp [ih, Nat.add_assoc]

theorem byteLength_eq_zero_iff {s : List Char} : byteLength s = 0 ↔ s = [] := by
  cases s with
  | nil => simp
  | cons c s =>
    have hc := c.utf8Size_pos
    simp only [byteLength_cons, List.cons_ne_nil, iff_false]
    omega

/-- Splits a text behind its first `n` bytes. There is no such split inside a character or past the
end. -/
def splitBytes? : Nat → List Char → Option (List Char × List Char)
  | 0, s => some ([], s)
  | _ + 1, [] => none
  | n + 1, c :: s =>
    if c.utf8Size ≤ n + 1 then
      (splitBytes? (n + 1 - c.utf8Size) s).map fun (a, b) => (c :: a, b)
    else none

def slice? (s : List Char) (start stop : Nat) : Option (List Char) := do
  guard (start ≤ stop)
  let (_, tail) ← splitBytes? start s
  let (body, _) ← splitBytes? (stop - start) tail
  return body

theorem exists_succ_byteLength (c : Char) (s : List Char) :
    ∃ n, byteLength (c :: s) = n + 1 ∧ c.utf8Size ≤ n + 1 ∧ n + 1 - c.utf8Size = byteLength s := by
  have hc := c.utf8Size_pos
  refine ⟨byteLength (c :: s) - 1, ?_⟩
  simp only [byteLength_cons]
  omega

theorem splitBytes?_byteLength (s t : List Char) :
    splitBytes? (byteLength s) (s ++ t) = some (s, t) := by
  induction s with
  | nil => cases t <;> rfl
  | cons c s ih =>
    obtain ⟨n, hn, hle, hsub⟩ := exists_succ_byteLength c s
    rw [hn, List.cons_append, splitBytes?, if_pos hle, hsub, ih]
    rfl

theorem slice?_append (a b c : List Char) :
    slice? (a ++ b ++ c) (byteLength a) (byteLength a + byteLength b) = some b := by
  have hle : byteLength a ≤ byteLength a + byteLength b := Nat.le_add_right _ _
  have hguard : (guard (byteLength a ≤ byteLength a + byteLength b) : Option Unit) = some () :=
    if_pos hle
  rw [slice?, hguard, List.append_assoc]
  simp [splitBytes?_byteLength]

end XorScan.Text
