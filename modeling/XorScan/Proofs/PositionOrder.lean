import XorScan.Position
import Mathlib.Data.Nat.Basic
import Mathlib.Data.Prod.Lex

namespace XorScan.PositionOrder

variable {p q : Position} {a b s : List Char}

def lineColumn (p : Position) : Nat ×ₗ Nat := toLex (p.line, p.column)

/-- Every character moves a position on: down one line, or to the right. -/
theorem lineColumn_lt_advance (p : Position) (c : Char) :
    lineColumn p < lineColumn (p.advance c) := by
  rw [lineColumn, lineColumn, Prod.Lex.toLex_lt_toLex]
  unfold Position.advance
  split
  · exact .inl (Nat.lt_succ_self p.line)
  · split
    · exact .inr ⟨rfl, Nat.lt_add_of_pos_right (by decide)⟩
    · exact .inr ⟨rfl, Nat.lt_succ_self p.column⟩

theorem lineColumn_le_advanceAll (p : Position) (s : List Char) :
    lineColumn p ≤ lineColumn (p.advanceAll s) := by
  induction s generalizing p with
  | nil => exact le_refl _
  | cons c s ih =>
    rw [Position.advanceAll_cons]
    exact (lineColumn_lt_advance p c).le.trans (ih _)

theorem lineColumn_lt_advanceAll (p : Position) (hs : s ≠ []) :
    lineColumn p < lineColumn (p.advanceAll s) := by
  obtain ⟨c, s, rfl⟩ := List.exists_cons_of_ne_nil hs
  rw [Position.advanceAll_cons]
  exact (lineColumn_lt_advance p c).trans_le (lineColumn_le_advanceAll _ s)

theorem compare_eq (p q : Position) : compare p q = (compare p.line q.line).then
    ((compare p.column q.column).then (compare p.offset q.offset)) := rfl

theorem compare_self_eq (p : Position) : compare p p = .eq := by
  simp [compare_eq]

theorem compare_of_lineColumn_lt (h : lineColumn p < lineColumn q) :
    compare p q = .lt ∧ compare q p = .gt := by
  rw [compare_eq, compare_eq]
  obtain hl | ⟨hl, hc⟩ := (Prod.Lex.toLex_lt_toLex).mp h
  · rw [Nat.compare_eq_lt.mpr hl, Nat.compare_eq_gt.mpr hl]
    exact ⟨rfl, rfl⟩
  · dsimp only at hl hc
    rw [hl, Nat.compare_eq_lt.mpr hc, Nat.compare_eq_gt.mpr hc, Nat.compare_eq_eq.mpr rfl]
    exact ⟨rfl, rfl⟩

theorem lt_of_prefix (h : a <+: b) (hne : a ≠ b) :
    Text.byteLength a < Text.byteLength b ∧
      lineColumn (Position.start.advanceAll a) < lineColumn (Position.start.advanceAll b) := by
  obtain ⟨t, rfl⟩ := h
  have ht : t ≠ [] := fun ht => hne (by rw [ht, List.append_nil])
  constructor
  · have hpos := Nat.pos_of_ne_zero (mt Text.byteLength_eq_zero_iff.mp ht)
    rw [Text.byteLength_append]
    omega
  · rw [Position.advanceAll_append]
    exact lineColumn_lt_advanceAll _ ht

/-- Of two boundaries in a text, the one before has the lesser position, and the lesser line and
column; so no two boundaries share a line and a column. -/
theorem boundaries_ordered {x y : List Char} (ha : s = a ++ x) (hb : s = b ++ y) :
    (Text.byteLength a < Text.byteLength b ↔
      compare (Position.start.advanceAll a) (Position.start.advanceAll b) = .lt) ∧
    (Text.byteLength a < Text.byteLength b ↔
      lineColumn (Position.start.advanceAll a) < lineColumn (Position.start.advanceAll b)) ∧
    ((Position.start.advanceAll a).line = (Position.start.advanceAll b).line →
      (Position.start.advanceAll a).column = (Position.start.advanceAll b).column →
      (Position.start.advanceAll a).offset = (Position.start.advanceAll b).offset) := by
  by_cases hab : a = b
  · subst hab
    simp [compare_self_eq]
  · obtain h | h := List.prefix_or_prefix_of_prefix ⟨x, ha.symm⟩ ⟨y, hb.symm⟩
    · obtain ⟨hbytes, hlc⟩ := lt_of_prefix h hab
      obtain ⟨hlt, -⟩ := compare_of_lineColumn_lt hlc
      exact ⟨iff_of_true hbytes hlt, iff_of_true hbytes hlc,
        fun hl hc => absurd (congrArg toLex (Prod.ext hl hc)) hlc.ne⟩
    · obtain ⟨hbytes, hlc⟩ := lt_of_prefix h (Ne.symm hab)
      obtain ⟨-, hgt⟩ := compare_of_lineColumn_lt hlc
      refine ⟨iff_of_false hbytes.not_gt ?_, iff_of_false hbytes.not_gt hlc.not_gt,
        fun hl hc => absurd (congrArg toLex (Prod.ext hl hc)) hlc.ne'⟩
      rw [hgt]
      decide

theorem boundaries_ordered_lineEnd :
    ['\t', 'é', '\n', 'x'] = ['\t', 'é'] ++ ['\n', 'x'] ∧
      ['\t', 'é', '\n', 'x'] = ['\t', 'é', '\n'] ++ ['x'] ∧
      Position.start.advanceAll ['\t', 'é'] = ⟨0, 5, 3⟩ ∧
      Position.start.advanceAll ['\t', 'é', '\n'] = ⟨1, 0, 4⟩ ∧
      compare (⟨0, 5, 3⟩ : Position) ⟨1, 0, 4⟩ = .lt ∧ lineColumn ⟨0, 5, 3⟩ < lineColumn ⟨1, 0, 4⟩ := by
  have ha : ['\t', 'é', '\n', 'x'] = ['\t', 'é'] ++ ['\n', 'x'] := rfl
  have hb : ['\t', 'é', '\n', 'x'] = ['\t', 'é', '\n'] ++ ['x'] := rfl
  have hlt : Text.byteLength ['\t', 'é'] < Text.byteLength ['\t', 'é', '\n'] := by decide
  obtain ⟨hcompare, hlc, -⟩ := boundaries_ordered ha hb
  exact ⟨ha, hb, rfl, rfl, hcompare.mp hlt, hlc.mp hlt⟩

end XorScan.PositionOrder
