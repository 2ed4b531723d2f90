import XorScan.Position
import Mathlib.Data.List.Induction

namespace XorScan.PositionCounts

def lastLine (s : List Char) : List Char := (s.reverse.takeWhile (· ≠ '\n')).reverse

/-- Display columns: four for a tab and one for any other character. -/
def width : List Char → Nat
  | [] => 0
  | c :: s => (if c = '\t' then 4 else 1) + width s

theorem width_concat (s : List Char) (c : Char) :
    width (s ++ [c]) = width s + if c = '\t' then 4 else 1 := by
  induction s with
  | nil => simp [width]
  | cons d s ih => simp [width, ih, Nat.add_assoc]

theorem lastLine_concat (s : List Char) (c : Char) :
    lastLine (s ++ [c]) = if c = '\n' then [] else lastLine s ++ [c] := by
  by_cases h : c = '\n' <;> simp [lastLine, h]

/-- A position counts the line feeds before it, the columns since the last of them, and bytes. -/
theorem advanceAll_start (s : List Char) :
    Position.start.advanceAll s = ⟨s.count '\n', width (lastLine s), Text.byteLength s⟩ := by
  induction s using List.reverseRecOn with
  | nil => rfl
  | append_singleton s c ih =>
    rw [Position.advanceAll_append, ih, lastLine_concat, Text.byteLength_append]
    by_cases hn : c = '\n'
    · simp [Position.advance, hn, width]
    · by_cases ht : c = '\t'
      · simp [Position.advance, ht, width_concat, tabWidth]
      · simp [Position.advance, hn, ht, width_concat]

theorem width_le (s : List Char) : width s ≤ 4 * s.length := by
  induction s with
  | nil => exact Nat.le_refl 0
  | cons c s ih =>
    rw [width, List.length_cons]
    split <;> omega

theorem length_le_byteLength (s : List Char) : s.length ≤ Text.byteLength s := by
  induction s with
  | nil => exact Nat.le_refl 0
  | cons c s ih =>
    have hc := c.utf8Size_pos
    rw [List.length_cons, Text.byteLength_cons]
    omega

theorem counters_fit {s : List Char} (h : 4 * Text.byteLength s + 1 < UInt32.size) :
    (Position.start.advanceAll s).displayLine < UInt32.size ∧
      (Position.start.advanceAll s).displayColumn < UInt32.size := by
  have hlen := length_le_byteLength s
  have hlines : s.count '\n' ≤ s.length := List.count_le_length
  have hlast : (lastLine s).length ≤ s.length := by
    have hle := (List.takeWhile_prefix (· ≠ '\n') (l := s.reverse)).length_le
    rwa [List.length_reverse, ← List.length_reverse] at hle
  have hwidth := width_le (lastLine s)
  rw [advanceAll_start, Position.displayLine, Position.displayColumn]
  dsimp only
  omega

end XorScan.PositionCounts
