import XorScan.Proofs.CharRun
import XorScan.Proofs.PositionCounts
import XorScan.Proofs.StoredText
import XorScan.SourceFile

namespace XorScan.LineIndex

open CharRun PositionCounts SourceFile StoredText

def BeginsLine (a : List Char) : Prop := a = [] ∨ ∃ x, a = x ++ ['\n']

def StopsLine (t : List Char) : Prop := t = [] ∨ ∃ x, t = '\n' :: x

theorem takeWhile_eq_nil_iff {t : List Char} :
    t.takeWhile (· ≠ '\n') = [] ↔ StopsLine t := by
  cases t with
  | nil => simp [StopsLine]
  | cons c t => by_cases hc : c = '\n' <;> simp [StopsLine, hc]

theorem utf8Size_lineFeed : Char.utf8Size '\n' = 1 := rfl

theorem lineStartsFrom_append (o : Nat) (a b : List Char) :
    lineStartsFrom o (a ++ b) =
      lineStartsFrom o a ++ lineStartsFrom (o + Text.byteLength a) b := by
  induction a generalizing o with
  | nil => rfl
  | cons c a ih =>
    by_cases hc : c = '\n'
    · simp [lineStartsFrom, hc, ih, utf8Size_lineFeed, Nat.add_assoc]
    · simp [lineStartsFrom, hc, ih, Nat.add_assoc]

theorem length_lineStartsFrom (o : Nat) (a : List Char) :
    (lineStartsFrom o a).length = a.count '\n' := by
  induction a generalizing o with
  | nil => rfl
  | cons c a ih => by_cases hc : c = '\n' <;> simp [lineStartsFrom, hc, ih]

theorem lineStartsFrom_eq_nil {p : List Char} (h : '\n' ∉ p) (o : Nat) :
    lineStartsFrom o p = [] := by
  rw [← List.length_eq_zero_iff, length_lineStartsFrom, List.count_eq_zero]
  exact h

/-- The starts of lines as they are found among the bytes of a file: each behind a line feed. -/
def byteLineStarts (bs : List UInt8) : List Nat :=
  0 :: (bs.zipIdx.filter fun b => b.1 = byte '\n').map fun b => b.2 + 1

theorem lineStartsFrom_eq_bytes (o : Nat) (c : List Char) : lineStartsFrom o c =
    (((stored c).zipIdx o).filter fun b => b.1 = byte '\n').map fun b => b.2 + 1 := by
  induction c generalizing o with
  | nil => rfl
  | cons d c ih =>
    rw [stored_cons, List.zipIdx_append, List.filter_append, List.map_append,
      String.length_utf8EncodeChar, ← ih]
    by_cases hd : d = '\n'
    · rw [hd, lineStartsFrom, if_pos rfl]
      rfl
    · have hno : ((String.utf8EncodeChar d).zipIdx o).filter (fun b => b.1 = byte '\n') = [] := by
        rw [List.filter_eq_nil_iff]
        rintro ⟨b, i⟩ hb h
        have hmem := List.fst_mem_of_mem_zipIdx hb
        rw [of_decide_eq_true h] at hmem
        exact hd ((byte_mem_encode_iff (by decide)).mp hmem)
      rw [lineStartsFrom, if_neg hd, hno]
      rfl

theorem lineStarts_eq_bytes (name : String) (c : List Char) :
    lineStarts ⟨name, c⟩ = byteLineStarts (stored c) :=
  congrArg (0 :: ·) (lineStartsFrom_eq_bytes 0 c)

theorem lineStarts_of_beginsLine {a : List Char} (h : BeginsLine a) (name : String)
    (b : List Char) :
    (lineStarts ⟨name, a ++ b⟩)[a.count '\n']? = some (Text.byteLength a) := by
  obtain rfl | ⟨x, rfl⟩ := h
  · rfl
  · have hlen := length_lineStartsFrom 0 x
    simp only [lineStarts, lineStartsFrom_append, List.count_append]
    simp [← hlen, lineStartsFrom, Text.byteLength_append, utf8Size_lineFeed]

theorem lineStarts_next {a p : List Char} (hp : '\n' ∉ p) (name : String) (t : List Char) :
    (lineStarts ⟨name, a ++ (p ++ t)⟩)[a.count '\n' + 1]? =
      (lineStartsFrom (Text.byteLength a + Text.byteLength p) t)[0]? := by
  simp only [lineStarts, lineStartsFrom_append, lineStartsFrom_eq_nil hp, List.nil_append,
    List.getElem?_cons_succ, Nat.zero_add]
  rw [← length_lineStartsFrom 0 a, List.getElem?_append_right (Nat.le_refl _), Nat.sub_self]

/-- A line of a file is the piece between two line feeds, less a carriage return at its end. -/
theorem line?_of_pieces {a p t : List Char} (ha : BeginsLine a) (hp : '\n' ∉ p) (ht : StopsLine t)
    (name : String) :
    line? ⟨name, a ++ (p ++ t)⟩ (a.count '\n') = some (dropCarriageReturn p) := by
  have hstart := lineStarts_of_beginsLine ha name (p ++ t)
  have hnext := lineStarts_next (a := a) hp name t
  have hcut := Text.slice?_append a p t
  rw [List.append_assoc] at hcut
  unfold line?
  rw [hstart, hnext]
  obtain rfl | ⟨x, rfl⟩ := ht
  · rw [List.append_nil] at hcut
    simp [lineStartsFrom, Text.byteLength_append, hcut]
  · simp [lineStartsFrom, hcut]

/-- The text between the line feeds next to the boundary between `a` and `b`. -/
def aroundBoundary (a b : List Char) : List Char := lastLine a ++ b.takeWhile (· ≠ '\n')

theorem exists_lastLine (a : List Char) :
    ∃ x, a = x ++ lastLine a ∧ BeginsLine x ∧ '\n' ∉ lastLine a ∧ x.count '\n' = a.count '\n' := by
  induction a using List.reverseRecOn with
  | nil => exact ⟨[], rfl, .inl rfl, by simp [lastLine], rfl⟩
  | append_singleton a c ih =>
    rw [lastLine_concat]
    by_cases hc : c = '\n'
    · exact ⟨a ++ [c], by simp [hc], .inr ⟨a, by rw [hc]⟩, by simp [hc], rfl⟩
    · obtain ⟨x, hx, hb, hn, hcount⟩ := ih
      refine ⟨x, ?_, hb, ?_, ?_⟩
      · rw [if_neg hc, ← List.append_assoc, ← hx]
      · simp [hc, hn, Ne.symm hc]
      · rw [hcount, List.count_append, List.count_singleton, if_neg (by simpa using hc)]
        rfl

structure Cuts (c x p t : List Char) : Prop where
  split : c = x ++ (p ++ t)
  begins : BeginsLine x
  whole : '\n' ∉ p
  stops : StopsLine t

theorem Cuts.line {c x p t : List Char} (h : Cuts c x p t) (name : String) :
    line? ⟨name, c⟩ (x.count '\n') = some (dropCarriageReturn p) := by
  rw [h.split]
  exact line?_of_pieces h.begins h.whole h.stops name

/-- Every boundary lies on a line, the one that the line feeds before it count. -/
theorem exists_cuts (a b : List Char) : ∃ x t, Cuts (a ++ b) x (aroundBoundary a b) t ∧
    a = x ++ lastLine a ∧ x.count '\n' = a.count '\n' := by
  obtain ⟨x, hx, hb, hn, hcount⟩ := exists_lastLine a
  obtain ⟨w, t, rfl, hr⟩ := exists_isRun (· ≠ '\n') b
  have hp : '\n' ∉ lastLine a ++ w := by
    intro hm
    obtain hm | hm := List.mem_append.mp hm
    · exact hn hm
    · simpa using hr.all '\n' hm
  have ht : StopsLine t := by
    cases t with
    | nil => exact .inl rfl
    | cons c t => exact .inr ⟨t, by simpa using hr.stop c rfl⟩
  have htext : a ++ (w ++ t) = x ++ ((lastLine a ++ w) ++ t) := by
    rw [List.append_assoc, ← List.append_assoc x, ← hx]
  rw [aroundBoundary, hr.takeWhile]
  exact ⟨x, t, ⟨htext, hb, hp, ht⟩, hx, hcount⟩

theorem lineOf?_advanceAll (name : String) (a b : List Char) :
    lineOf? ⟨name, a ++ b⟩ (Position.start.advanceAll a) =
      some (dropCarriageReturn (aroundBoundary a b)) := by
  obtain ⟨x, t, h, -, hcount⟩ := exists_cuts a b
  rw [lineOf?, advanceAll_start, ← hcount]
  exact h.line name

end XorScan.LineIndex
