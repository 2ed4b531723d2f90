import XorScan.Command
import XorScan.Proofs.QuotedText

namespace XorScan.ListingRows

open CharRun QuotedText Text

def Bare (s : String) : Prop := ∀ c ∈ s.toList, c ≠ '"' ∧ c ≠ '\n'

theorem bare_of_all {s : String} (h : s.toList.all (fun c => c != '"' && c != '\n') = true) :
    Bare s := by
  intro c hc
  simpa using List.all_eq_true.mp h c hc

theorem bare_append {s t : String} (hs : Bare s) (ht : Bare t) : Bare (s ++ t) := by
  intro c hc
  rw [String.toList_append] at hc
  exact (List.mem_append.mp hc).elim (hs c) (ht c)

theorem bare_blanks (n : Nat) : Bare (String.ofList (List.replicate n ' ')) := by
  intro c hc
  rw [String.toList_ofList] at hc
  rw [List.eq_of_mem_replicate hc]
  decide

theorem bare_padLeft {s : String} (n : Nat) (h : Bare s) : Bare (padLeft n s) :=
  bare_append (bare_blanks _) h

theorem bare_padRight {s : String} (n : Nat) (h : Bare s) : Bare (padRight n s) :=
  bare_append h (bare_blanks _)

theorem bare_toString (n : Nat) : Bare (toString n) := by
  intro c hc
  rw [Nat.toString_eq_ofList_toDigits, String.toList_ofList] at hc
  have hd := Nat.isDigit_of_mem_toDigits (by decide) (by decide) hc
  constructor
  · rintro rfl
    simp at hd
  · rintro rfl
    simp at hd

theorem bare_display (p : Position) : Bare p.display := by
  have hd : p.display = toString (p.line + 1) ++ ":" ++ toString (p.column + 1) := rfl
  have hcolon : Bare ":" := bare_of_all rfl
  rw [hd]
  exact bare_append (bare_append (bare_toString _) hcolon) (bare_toString _)

theorem bare_name (k : Kind) : Bare k.name := by
  apply bare_of_all
  cases k with
  | trivia t => cases t <;> decide +kernel
  | endOfInput => decide +kernel
  | symbol y => cases y <;> decide +kernel
  | keyword w => cases w <;> decide +kernel
  | primitive p => cases p <;> decide +kernel
  | literal l => cases l <;> decide +kernel

def rowHead (t : Token) : String :=
  padRight 9 t.position.display ++ " " ++ padLeft 6 (toString t.position.offset) ++ "  " ++
    padRight 18 t.kind.name ++ " "

theorem row_eq (t : Token) : t.row = rowHead t ++ quote t.text := rfl

theorem bare_rowHead (t : Token) : Bare (rowHead t) := by
  have hblank : Bare " " := bare_of_all rfl
  have hblanks : Bare "  " := bare_of_all rfl
  have hplace := bare_append (bare_padRight 9 (bare_display t.position)) hblank
  have hoffset := bare_append hplace (bare_padLeft 6 (bare_toString t.position.offset))
  have hkind := bare_append (bare_append hoffset hblanks) (bare_padRight 18 (bare_name t.kind))
  exact bare_append hkind hblank

theorem lineFeed_notMem_row (t : Token) : '\n' ∉ t.row.toList := by
  rw [row_eq, String.toList_append]
  intro h
  obtain h | h := List.mem_append.mp h
  · exact (bare_rowHead t '\n' h).2 rfl
  · exact lineFeed_notMem_quote t.text h

theorem lineFeed_notMem_rows (ts : List Token) : ∀ r ∈ ts.map Token.row, '\n' ∉ r.toList := by
  intro r hr
  obtain ⟨t, -, rfl⟩ := List.mem_map.mp hr
  exact lineFeed_notMem_row t

/-- The text of a token can be read in its row, behind the first quotation mark. -/
theorem text_of_row {t u : Token} (h : t.row = u.row) : t.text = u.text := by
  have hrun : ∀ v : Token, IsRun (· ≠ '"') (rowHead v).toList (quote v.text).toList := by
    intro v
    refine ⟨fun c hc => by simpa using (bare_rowHead v c hc).1, ?_⟩
    rw [toList_quote]
    rintro _ ⟨⟩
    rfl
  have hl := congrArg String.toList h
  rw [row_eq, row_eq, String.toList_append, String.toList_append] at hl
  exact quote_injective (String.toList_injective ((hrun t).unique (hrun u) hl).2)

def listing (rows : List String) : String := String.join (rows.map (· ++ "\n"))

theorem toList_listing_cons (r : String) (rows : List String) :
    (listing (r :: rows)).toList = r.toList ++ '\n' :: (listing rows).toList := by
  simp [listing]

theorem splitOn_listing {rows : List String} (h : ∀ r ∈ rows, '\n' ∉ r.toList) :
    (listing rows).toList.splitOn '\n' = rows.map String.toList ++ [[]] := by
  induction rows with
  | nil => rfl
  | cons r rows ih =>
    have hr := h r List.mem_cons_self
    have hrows := ih fun x hx => h x (List.mem_cons_of_mem r hx)
    rw [toList_listing_cons, List.splitOn_append_cons_self_of_not_mem hr, hrows]
    rfl

theorem listing_injective {rows rows' : List String} (h : ∀ r ∈ rows, '\n' ∉ r.toList)
    (h' : ∀ r ∈ rows', '\n' ∉ r.toList) (he : listing rows = listing rows') : rows = rows' := by
  have hl := splitOn_listing h
  rw [he, splitOn_listing h'] at hl
  exact (List.map_injective_iff.mpr (fun _ _ => String.toList_injective)
    (List.append_cancel_right hl)).symm

end XorScan.ListingRows
