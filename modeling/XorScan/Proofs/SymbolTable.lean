import XorScan.Proofs.CharClasses
import XorScan.Symbol
import Mathlib.Data.List.Infix

namespace XorScan.SymbolTable

open XorScan.Symbol

theorem mem_longestFirst (y : Symbol) : y ∈ longestFirst := by
  cases y <;> decide

theorem longestFirst_sorted :
    longestFirst.Pairwise (fun y z => z.spelling.length ≤ y.spelling.length) := by
  decide

theorem prefix_of_find? {l : List Symbol} {s : List Char} {y : Symbol}
    (h : l.find? (·.spelling.isPrefixOf s) = some y) : y.spelling <+: s :=
  List.isPrefixOf_iff_prefix.mp (List.find?_some (p := fun y : Symbol => y.spelling.isPrefixOf s) h)

theorem longest?_prefix {s : List Char} {y : Symbol} (h : longest? s = some y) : y.spelling <+: s :=
  prefix_of_find? h

/-- Where longer spellings stand first, no other symbol at the front of a text is longer than the one
found. -/
theorem length_le_find? {l : List Symbol}
    (hsort : l.Pairwise fun y z => z.spelling.length ≤ y.spelling.length) {s : List Char}
    {y z : Symbol} (h : l.find? (·.spelling.isPrefixOf s) = some y) (hmem : z ∈ l)
    (hz : z.spelling <+: s) : z.spelling.length ≤ y.spelling.length := by
  obtain ⟨-, as, bs, rfl, has⟩ := List.find?_eq_some_iff_append.mp h
  have hza : z ∉ as := by
    intro hm
    have := has z hm
    simp [List.isPrefixOf_iff_prefix.mpr hz] at this
  have hzb : z = y ∨ z ∈ bs := by simpa [hza] using hmem
  obtain rfl | hzb := hzb
  · exact Nat.le_refl _
  · exact (List.pairwise_cons.mp (List.pairwise_append.mp hsort).2.1).1 z hzb

theorem length_le_longest? {s : List Char} {y z : Symbol} (h : longest? s = some y)
    (hz : z.spelling <+: s) : z.spelling.length ≤ y.spelling.length :=
  length_le_find? longestFirst_sorted h (mem_longestFirst z) hz

theorem longest?_spelling (y : Symbol) : longest? y.spelling = some y := by
  cases y <;> decide

theorem spelling_injective {y z : Symbol} (h : y.spelling = z.spelling) : y = z := by
  have hy := longest?_spelling y
  rw [h, longest?_spelling] at hy
  exact (Option.some.inj hy).symm

theorem spelling_ne_nil (y : Symbol) : y.spelling ≠ [] := by
  cases y <;> decide

theorem class_of_spelling {y : Symbol} {c : Char} {w : List Char} (h : y.spelling = c :: w) :
    CharClass.of c = .symbol ∨ CharClass.of c = .slash := by
  cases y <;> cases h <;> decide

theorem spelling_ne_comment (y : Symbol) (w : List Char) :
    y.spelling ≠ '/' :: '/' :: w ∧ y.spelling ≠ '/' :: '*' :: w := by
  cases y <;> simp [spelling]

theorem exists_spelling_of_class {c : Char}
    (h : CharClass.of c = .symbol ∨ CharClass.of c = .slash) : ∃ y : Symbol, y.spelling = [c] := by
  have hall : ('/' :: CharClass.symbolStarts).all
      (fun x => all.any fun y => y.spelling = [x]) := by
    decide
  rw [CharClass.of_eq_symbol_iff, CharClass.of_eq_slash_iff] at h
  obtain ⟨y, -, hy⟩ := List.any_eq_true.mp (List.all_eq_true.mp hall c (by simpa using h.symm))
  exact ⟨y, of_decide_eq_true hy⟩

theorem longest?_isSome {c : Char} (h : CharClass.of c = .symbol ∨ CharClass.of c = .slash)
    (r : List Char) : ∃ y, longest? (c :: r) = some y := by
  obtain ⟨y, hy⟩ := exists_spelling_of_class h
  have hs : (longest? (c :: r)).isSome := by
    rw [longest?, List.find?_isSome]
    exact ⟨y, mem_longestFirst y, by simp [hy]⟩
  exact Option.isSome_iff_exists.mp hs

/-- A symbol that is cut off is a shorter symbol. -/
theorem exists_spelling_of_prefix {y : Symbol} {w : List Char} (hw : w ≠ [])
    (h : w <+: y.spelling) : ∃ z : Symbol, z.spelling = w := by
  have hall : longestFirst.all fun y => y.spelling.inits.all fun w =>
      w = [] ∨ longestFirst.any fun z => z.spelling = w := by
    decide +kernel
  have hy := List.all_eq_true.mp hall y (mem_longestFirst y)
  have hor := of_decide_eq_true (List.all_eq_true.mp hy w ((List.mem_inits _ _).mpr h))
  obtain ⟨z, -, hz⟩ := List.any_eq_true.mp (hor.resolve_left hw)
  exact ⟨z, of_decide_eq_true hz⟩

theorem family_sorted (c : Char) :
    (family c).Pairwise (fun y z => z.spelling.length ≤ y.spelling.length) := by
  unfold family
  split <;> decide

theorem mem_family_iff {y : Symbol} {c : Char} : y ∈ family c ↔ ∃ w, y.spelling = c :: w := by
  constructor
  · have hall : ∀ y ∈ family c, y.spelling.head? = some c := by
      unfold family
      split <;> simp [spelling]
    exact fun h => List.head?_eq_some_iff.mp (hall y h)
  · rintro ⟨w, h⟩
    cases y <;> cases h <;> decide

/-- A symbol is looked for among those that begin with the first character, and the first that fits
is the longest of all. -/
theorem find?_family (c : Char) (r : List Char) :
    (family c).find? (·.spelling.isPrefixOf (c :: r)) = longest? (c :: r) := by
  have hmem : ∀ y : Symbol, y.spelling <+: c :: r → y ∈ family c := by
    intro y hy
    obtain ⟨d, w, hw⟩ := List.exists_cons_of_ne_nil (spelling_ne_nil y)
    rw [hw] at hy
    obtain ⟨rfl, -⟩ := List.cons_prefix_cons.mp hy
    exact mem_family_iff.mpr ⟨w, hw⟩
  cases hl : longest? (c :: r) with
  | none =>
    rw [longest?, List.find?_eq_none] at hl
    rw [List.find?_eq_none]
    exact fun y _ => hl y (mem_longestFirst y)
  | some y =>
    have hy := longest?_prefix hl
    cases hf : (family c).find? (·.spelling.isPrefixOf (c :: r)) with
    | none =>
      have hno := List.find?_eq_none.mp hf y (hmem y hy)
      exact absurd (List.isPrefixOf_iff_prefix.mpr hy) hno
    | some z =>
      have hz := prefix_of_find? hf
      have hyz := length_le_find? (family_sorted c) hf (hmem y hy) hy
      have hzy := length_le_longest? hl hz
      have heq := (List.prefix_of_prefix_length_le hz hy hzy).eq_of_length (by omega)
      rw [spelling_injective heq]

theorem family_ne_nil_iff {c : Char} :
    family c ≠ [] ↔ CharClass.of c = .symbol ∨ CharClass.of c = .slash := by
  constructor
  · intro h
    obtain ⟨y, hy⟩ := List.exists_mem_of_ne_nil _ h
    obtain ⟨w, hw⟩ := mem_family_iff.mp hy
    exact class_of_spelling hw
  · intro h
    obtain ⟨y, hy⟩ := exists_spelling_of_class h
    exact List.ne_nil_of_mem (mem_family_iff.mpr ⟨[], hy⟩)

end XorScan.SymbolTable
