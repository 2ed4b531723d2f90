import XorScan.Diagnostic
import XorScan.Proofs.LineIndex
import Mathlib.Data.Nat.Digits.Lemmas

namespace XorScan.CaretPlacement

open LineIndex PositionCounts Snippet SourceFile

/-- The line on which the boundary between `a` and `b` lies, without what ends it. -/
def lineAt (a b : List Char) : List Char := dropCarriageReturn (aroundBoundary a b)

/-- A carriage return stands before the boundary and the line stops behind it. -/
def BehindReturn (a b : List Char) : Prop := a.getLast? = some '\r' ∧ StopsLine b

/-- The column `n` of the shown line is that of the boundary between `a` and `b`: the text before it
takes `n` columns and is shown, and the character behind it is shown next. -/
structure StandsAt (a b shown : List Char) (n : Nat) : Prop where
  column : n = (expandTabs (lastLine a)).length
  before : ¬ BehindReturn a b → expandTabs (lastLine a) <+: shown
  behind : ∀ c r, b = c :: r → c ≠ '\n' → ¬ (c = '\r' ∧ StopsLine r) →
    shown[n]? = some (if c = '\t' then ' ' else c)

def blanks (n : Nat) : String := String.ofList (List.replicate n ' ')

def reportRows (message name : String) (number column : Nat) (shown : List Char)
    (label? : Option String) (helps : List String) : List String :=
  let digits := (Nat.digits 10 number).length
  let gutter := max 3 digits
  ["error: " ++ message,
    blanks (gutter - 2) ++ "--> " ++ name ++ ":" ++ toString number ++ ":" ++ toString (column + 1),
    blanks gutter ++ " |",
    blanks (gutter - digits) ++ toString number ++ " | " ++ String.ofList shown,
    blanks gutter ++ " | " ++ blanks column ++ "^" ++ (label?.map (" " ++ ·)).getD ""] ++
  helps.map (blanks gutter ++ " = help: " ++ ·)

theorem length_toString {n : Nat} (h : n ≠ 0) :
    (toString n).length = (Nat.digits 10 n).length := by
  have hle : ∀ k, 0 < k → ((toString n).length ≤ k ↔ (Nat.digits 10 n).length ≤ k) := fun k hk =>
    (Nat.length_repr_le_iff hk).trans (Nat.digits_length_le_iff (by decide) n).symm
  have hpos : 0 < (toString n).length := Nat.length_repr_pos
  have hpos' : 0 < (Nat.digits 10 n).length :=
    List.length_pos_of_ne_nil (Nat.digits_ne_nil_iff_ne_zero.mpr h)
  exact Nat.le_antisymm ((hle _ hpos').mpr (Nat.le_refl _)) ((hle _ hpos).mp (Nat.le_refl _))

theorem padLeft_nil (n : Nat) : Text.padLeft n "" = blanks n := by
  simp [Text.padLeft, blanks]

section Rows

variable (line : List Char) (number column : Nat) (label? : Option String)

theorem gutterWidth_point (h : number ≠ 0) :
    (point line number column label?).gutterWidth = max 3 (Nat.digits 10 number).length := by
  rw [gutterWidth, point, length_toString h]

theorem lineRow_point (h : number ≠ 0) : (point line number column label?).lineRow =
    blanks (max 3 (Nat.digits 10 number).length - (Nat.digits 10 number).length) ++
      toString number ++ " | " ++ String.ofList (expandTabs line) := by
  rw [lineRow, gutterWidth_point _ _ _ _ h, Text.padLeft, point, length_toString h]
  rfl

theorem caretRow_point (h : number ≠ 0) : (point line number (column + 1) label?).caretRow =
    blanks (max 3 (Nat.digits 10 number).length) ++ " | " ++ blanks column ++ "^" ++
      (label?.map (" " ++ ·)).getD "" := by
  have hmark : ∀ n, String.ofList (List.replicate (max 1 (n - n)) '^') = "^" := by
    intro n
    rw [Nat.sub_self]
    rfl
  rw [caretRow, gutterWidth_point _ _ _ _ h, padLeft_nil]
  dsimp only [point]
  rw [hmark, Nat.add_sub_cancel]
  cases label? <;> rfl

end Rows

theorem rows_of_lineOf? {d : Diagnostic} {f : SourceFile} {line : List Char}
    (h : f.lineOf? d.position = some line) :
    d.rows f = reportRows d.message f.name (d.position.line + 1) d.position.column
      (expandTabs line) d.label? d.helps := by
  have hsnippet : d.snippet? f = some (.point line (d.position.line + 1)
      (d.position.column + 1) d.label?) := by
    rw [Diagnostic.snippet?, h]
    rfl
  have harrow : ∀ n, Text.padLeft (n + 1) "-->" = blanks (n - 2) ++ "-->" := fun n => rfl
  have hdisplay : d.position.display =
      toString (d.position.line + 1) ++ ":" ++ toString (d.position.column + 1) := rfl
  have hnumber := Nat.succ_ne_zero d.position.line
  simp only [Diagnostic.rows, reportRows, Diagnostic.level, hsnippet, Option.map_some,
    Option.getD_some, gutterWidth_point _ _ _ _ hnumber, lineRow_point _ _ _ _ hnumber,
    caretRow_point _ _ _ _ hnumber, harrow, hdisplay, padLeft_nil]
  simp [String.append_assoc]

theorem expandTabs_append (s t : List Char) :
    expandTabs (s ++ t) = expandTabs s ++ expandTabs t := List.flatMap_append

theorem expandTabs_cons (c : Char) (s : List Char) : expandTabs (c :: s) =
    (if c = '\t' then List.replicate tabWidth ' ' else [c]) ++ expandTabs s := rfl

theorem length_expandTabs (s : List Char) : (expandTabs s).length = width s := by
  induction s with
  | nil => rfl
  | cons c s ih =>
    rw [expandTabs_cons, List.length_append, ih, width]
    by_cases hc : c = '\t' <;> simp [hc, tabWidth]

theorem dropCarriageReturn_append {t : List Char} (h : t ≠ []) (s : List Char) :
    dropCarriageReturn (s ++ t) = s ++ dropCarriageReturn t := by
  unfold dropCarriageReturn
  rw [List.getLast?_append_of_ne_nil s h, List.dropLast_append_of_ne_nil h]
  split <;> rfl

theorem lineAt_cons {c : Char} (hc : c ≠ '\n') (a r : List Char) :
    lineAt a (c :: r) = lastLine a ++ dropCarriageReturn (c :: r.takeWhile (· ≠ '\n')) := by
  have hw : (c :: r).takeWhile (· ≠ '\n') = c :: r.takeWhile (· ≠ '\n') :=
    List.takeWhile_cons_of_pos (by simpa using hc)
  rw [lineAt, aroundBoundary, hw, dropCarriageReturn_append (by simp)]

theorem lineAt_of_stopsLine {a b : List Char} (hb : StopsLine b) (ha : a.getLast? ≠ some '\r') :
    lineAt a b = lastLine a := by
  have hl : (lastLine a).getLast? ≠ some '\r' := by
    obtain ⟨x, hx, -⟩ := exists_lastLine a
    intro hl
    rw [hx, List.getLast?_append, hl] at ha
    exact ha rfl
  rw [lineAt, aroundBoundary, takeWhile_eq_nil_iff.mpr hb, List.append_nil, dropCarriageReturn,
    if_neg hl]

theorem lastLine_prefix_lineAt {a b : List Char} (h : ¬ BehindReturn a b) :
    lastLine a <+: lineAt a b := by
  cases b with
  | nil =>
    rw [lineAt_of_stopsLine (.inl rfl) fun ha => h ⟨ha, .inl rfl⟩]
  | cons c r =>
    by_cases hc : c = '\n'
    · have hb : StopsLine (c :: r) := .inr ⟨r, by rw [hc]⟩
      rw [lineAt_of_stopsLine hb fun ha => h ⟨ha, hb⟩]
    · rw [lineAt_cons hc]
      exact List.prefix_append _ _

theorem exists_lineAt_cons {c : Char} {r : List Char} (hc : c ≠ '\n')
    (hr : ¬ (c = '\r' ∧ StopsLine r)) (a : List Char) :
    ∃ t, lineAt a (c :: r) = lastLine a ++ c :: t := by
  rw [lineAt_cons hc]
  cases hw : r.takeWhile (· ≠ '\n') with
  | nil =>
    have hcr : c ≠ '\r' := fun h => hr ⟨h, takeWhile_eq_nil_iff.mp hw⟩
    exact ⟨[], by simp [dropCarriageReturn, hcr]⟩
  | cons d w =>
    have hd : dropCarriageReturn (c :: d :: w) = c :: dropCarriageReturn (d :: w) :=
      dropCarriageReturn_append (by simp) [c]
    exact ⟨dropCarriageReturn (d :: w), by rw [hd]⟩

theorem standsAt_lineAt (a b : List Char) :
    StandsAt a b (expandTabs (lineAt a b)) (Position.start.advanceAll a).column := by
  have hcol : (Position.start.advanceAll a).column = (expandTabs (lastLine a)).length := by
    rw [advanceAll_start, length_expandTabs]
  refine ⟨hcol, ?_, ?_⟩
  · intro h
    obtain ⟨t, ht⟩ := lastLine_prefix_lineAt h
    rw [← ht, expandTabs_append]
    exact List.prefix_append _ _
  · rintro c r rfl hc hr
    obtain ⟨t, ht⟩ := exists_lineAt_cons hc hr a
    rw [hcol, ht, expandTabs_append, expandTabs_cons, List.getElem?_append_right (Nat.le_refl _),
      Nat.sub_self]
    by_cases htab : c = '\t' <;> simp [htab, tabWidth, List.replicate_succ]

/-- A report at a place of a text shows the line there, and its mark stands under the place. -/
theorem render_marks_place (name message : String) (label? : Option String) (helps : List String)
    (a b : List Char) :
    (Diagnostic.mk message (Position.start.advanceAll a) label? helps).render ⟨name, a ++ b⟩ =
        String.join ((reportRows message name ((Position.start.advanceAll a).line + 1)
          (Position.start.advanceAll a).column (expandTabs (lineAt a b)) label? helps).map
            (· ++ "\n")) ∧
      lineOf? ⟨name, a ++ b⟩ (Position.start.advanceAll a) = some (lineAt a b) ∧
      StandsAt a b (expandTabs (lineAt a b)) (Position.start.advanceAll a).column := by
  have hline := lineOf?_advanceAll name a b
  refine ⟨?_, hline, standsAt_lineAt a b⟩
  rw [Diagnostic.render, rows_of_lineOf? hline]
  rfl

end XorScan.CaretPlacement
