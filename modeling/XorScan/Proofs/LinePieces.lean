import XorScan.Proofs.LineIndex

namespace XorScan.LinePieces

open LineIndex PositionCounts SourceFile

def pieces (c : List Char) : List (List Char) := c.splitOn '\n'

/-- The byte offset of a piece: the pieces before it and their line feeds come first. -/
def pieceStart (c : List Char) (i : Nat) : Nat :=
  Text.byteLength (((pieces c).take i).flatMap (· ++ ['\n']))

/-- A piece without a carriage return at its end, of which one at most is removed. -/
def Trims (p q : List Char) : Prop := p = q ++ ['\r'] ∨ p = q ∧ p.getLast? ≠ some '\r'

/-- The offset `k` lies on the piece number `i`: not before its start, and not behind the line feed
or the end of the text that stops it. -/
structure LiesOn (c : List Char) (k i : Nat) (p : List Char) : Prop where
  piece : (pieces c)[i]? = some p
  start_le : pieceStart c i ≤ k
  le_stop : k ≤ pieceStart c i + Text.byteLength p
  stop : ∃ y t, c = y ++ t ∧ Text.byteLength y = pieceStart c i + Text.byteLength p ∧ StopsLine t

variable {c x p t : List Char}

theorem length_pieces (c : List Char) : (pieces c).length = c.count '\n' + 1 := by
  induction c with
  | nil => rfl
  | cons d c ih =>
    unfold pieces at ih ⊢
    rw [List.splitOn_cons_eq_if_modifyHead]
    by_cases hd : d = '\n' <;> simp [hd, ih]

theorem pieces_append_lineFeed (y z : List Char) :
    pieces (y ++ '\n' :: z) = pieces y ++ pieces z := List.splitOn_append_cons_self y z

theorem flatMap_pieces (y : List Char) : (pieces y).flatMap (· ++ ['\n']) = y ++ ['\n'] := by
  have hjoin : ∀ ls : List (List Char), ls ≠ [] →
      ls.flatMap (· ++ ['\n']) = ['\n'].intercalate ls ++ ['\n'] := by
    intro ls hls
    induction ls with
    | nil => exact absurd rfl hls
    | cons l ls ih =>
      by_cases h : ls = []
      · simp [h]
      · rw [List.flatMap_cons, ih h, List.intercalate_cons_of_ne_nil h]
        simp
  rw [pieces, hjoin _ (List.splitOn_ne_nil '\n' y), List.intercalate_splitOn]

theorem pieces_of_cuts (h : Cuts c x p t) : ∃ ls, pieces c = ls ++ pieces (p ++ t) ∧
    ls.length = x.count '\n' ∧ ls.flatMap (· ++ ['\n']) = x := by
  obtain rfl | ⟨y, rfl⟩ := h.begins
  · exact ⟨[], by rw [h.split]; rfl, rfl, rfl⟩
  · refine ⟨pieces y, ?_, ?_, flatMap_pieces y⟩
    · rw [h.split, List.append_assoc, List.singleton_append, pieces_append_lineFeed]
    · simp [length_pieces]

theorem head_pieces_of_cuts (h : Cuts c x p t) : (pieces (p ++ t))[0]? = some p := by
  obtain rfl | ⟨y, rfl⟩ := h.stops
  · rw [List.append_nil, pieces, List.splitOn_eq_singleton h.whole]
    rfl
  · rw [pieces, List.splitOn_append_cons_self_of_not_mem h.whole]
    rfl

theorem piece_of_cuts (h : Cuts c x p t) : (pieces c)[x.count '\n']? = some p := by
  obtain ⟨ls, hls, hlen, -⟩ := pieces_of_cuts h
  rw [hls, ← hlen, List.getElem?_append_right (Nat.le_refl _), Nat.sub_self]
  exact head_pieces_of_cuts h

theorem pieceStart_of_cuts (h : Cuts c x p t) :
    pieceStart c (x.count '\n') = Text.byteLength x := by
  obtain ⟨ls, hls, hlen, hx⟩ := pieces_of_cuts h
  rw [pieceStart, hls, ← hlen, List.take_left, hx]

theorem start_of_cuts (h : Cuts c x p t) (name : String) :
    (lineStarts ⟨name, c⟩)[x.count '\n']? = some (pieceStart c (x.count '\n')) := by
  rw [pieceStart_of_cuts h, h.split]
  exact lineStarts_of_beginsLine h.begins name (p ++ t)

theorem liesOn_of_cuts (h : Cuts c x p t) {a : List Char} (hx : x <+: a) (ha : a <+: x ++ p) :
    LiesOn c (Text.byteLength a) (x.count '\n') p := by
  obtain ⟨y, rfl⟩ := hx
  obtain ⟨z, rfl⟩ := (List.prefix_append_right_inj x).mp ha
  refine ⟨piece_of_cuts h, ?_, ?_, x ++ (y ++ z), t, ?_, ?_, h.stops⟩
  · rw [pieceStart_of_cuts h, Text.byteLength_append]
    exact Nat.le_add_right _ _
  · rw [pieceStart_of_cuts h, Text.byteLength_append, Text.byteLength_append]
    omega
  · rw [h.split, List.append_assoc x]
  · rw [pieceStart_of_cuts h, Text.byteLength_append]

theorem exists_boundary {c : List Char} {i : Nat} (h : i ≤ c.count '\n') :
    ∃ a b, c = a ++ b ∧ a.count '\n' = i := by
  induction c generalizing i with
  | nil => exact ⟨[], [], rfl, (Nat.le_zero.mp h).symm⟩
  | cons d c ih =>
    by_cases hd : d = '\n'
    · cases i with
      | zero => exact ⟨[], d :: c, rfl, rfl⟩
      | succ i =>
        obtain ⟨a, b, rfl, ha⟩ := ih (i := i) (by simpa [hd] using h)
        exact ⟨d :: a, b, rfl, by simp [hd, ha]⟩
    · obtain ⟨a, b, rfl, ha⟩ := ih (i := i) (by simpa [hd] using h)
      exact ⟨d :: a, b, rfl, by simp [hd, ha]⟩

theorem trims_dropCarriageReturn (p : List Char) : Trims p (dropCarriageReturn p) := by
  unfold dropCarriageReturn
  split
  next h =>
    obtain ⟨q, rfl⟩ := List.getLast?_eq_some_iff.mp h
    exact .inl (by rw [List.dropLast_concat])
  next h => exact .inr ⟨rfl, h⟩

theorem lineCount_eq (name : String) (c : List Char) :
    lineCount ⟨name, c⟩ = 1 + c.count '\n' := by
  rw [lineCount, lineStarts, List.length_cons, length_lineStartsFrom, Nat.add_comm]

/-- The lines of a file are the pieces of its text, each found where it begins by a walk over the
bytes, and the line that a position counts is the one on which its place lies. -/
theorem line_index_agrees (name : String) (c : List Char) :
    lineCount ⟨name, c⟩ = 1 + c.count '\n' ∧
    lineStarts ⟨name, c⟩ = byteLineStarts (StoredText.stored c) ∧
    (∀ i < lineCount ⟨name, c⟩, ∃ p q, (pieces c)[i]? = some p ∧ Trims p q ∧
      (lineStarts ⟨name, c⟩)[i]? = some (pieceStart c i) ∧ line? ⟨name, c⟩ i = some q) ∧
    (∀ i, lineCount ⟨name, c⟩ ≤ i →
      (lineStarts ⟨name, c⟩)[i]? = none ∧ line? ⟨name, c⟩ i = none) ∧
    ∀ a b, c = a ++ b → (Position.start.advanceAll a).line < lineCount ⟨name, c⟩ ∧
      ∃ p q, LiesOn c (Text.byteLength a) (Position.start.advanceAll a).line p ∧ Trims p q ∧
        lineOf? ⟨name, c⟩ (Position.start.advanceAll a) = some q := by
  refine ⟨lineCount_eq name c, lineStarts_eq_bytes name c, ?_, ?_, ?_⟩
  · intro i hi
    rw [lineCount_eq] at hi
    obtain ⟨a, b, rfl, ha⟩ := exists_boundary (c := c) (i := i) (by omega)
    obtain ⟨x, t, h, -, hx⟩ := exists_cuts a b
    obtain rfl := hx.trans ha
    exact ⟨_, _, piece_of_cuts h, trims_dropCarriageReturn _, start_of_cuts h name, h.line name⟩
  · intro i hi
    have hnone : (lineStarts ⟨name, c⟩)[i]? = none := List.getElem?_eq_none hi
    refine ⟨hnone, ?_⟩
    rw [line?, hnone]
    rfl
  · rintro a b rfl
    obtain ⟨x, t, h, ha, hx⟩ := exists_cuts a b
    have hline : (Position.start.advanceAll a).line = x.count '\n' := by
      rw [advanceAll_start, hx]
    have hpiece : a ++ b.takeWhile (· ≠ '\n') = x ++ aroundBoundary a b := by
      rw [aroundBoundary, ← List.append_assoc, ← ha]
    have hlies : LiesOn (a ++ b) (Text.byteLength a) (x.count '\n') (aroundBoundary a b) :=
      liesOn_of_cuts h ⟨_, ha.symm⟩ ⟨b.takeWhile (· ≠ '\n'), hpiece⟩
    rw [lineOf?, hline, lineCount_eq]
    refine ⟨?_, _, _, hlies, trims_dropCarriageReturn _, h.line name⟩
    rw [hx, List.count_append]
    omega

/-- An empty line, a line end of two characters, and an empty last line. -/
example : (pieces ['\n', 'é', '\r', '\n']).map dropCarriageReturn = [[], ['é'], []] ∧
    (lineStarts ⟨"", ['\n', 'é', '\r', '\n']⟩) = [0, 1, 5] := by
  decide

end XorScan.LinePieces
