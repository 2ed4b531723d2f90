import XorScan.CharClass

namespace XorScan.CharClass

theorem isIdentStart_eq_false_of_isDigit {c : Char} (h : c.isDigit) : isIdentStart c = false := by
  have hmax : c.val ≤ '9'.val := of_decide_eq_true (Bool.and_eq_true_iff.mp h).2
  rw [Bool.eq_false_iff]
  intro hs
  obtain hs | hs := Bool.or_eq_true_iff.mp hs
  · have hmin : 'A'.val ≤ c.val := by
      obtain hs | hs := Bool.or_eq_true_iff.mp hs
      · exact (of_decide_eq_true hs).1
      · have hlow : 'a'.val ≤ c.val := of_decide_eq_true (Bool.and_eq_true_iff.mp hs).1
        exact UInt32.le_trans (by decide) hlow
    exact absurd (UInt32.le_trans hmin hmax) (by decide)
  · obtain rfl := eq_of_beq hs
    exact absurd hmax (by decide)

theorem isIdentStart_eq_false_of_mem {c : Char}
    (h : c ∈ ['\n', '\r', ' ', '\t', '/', '"', '\''] ++ symbolStarts) :
    isIdentStart c = false ∧ c.isDigit = false := by
  have hall : (['\n', '\r', ' ', '\t', '/', '"', '\''] ++ symbolStarts).all
      (fun x => isIdentStart x = false ∧ x.isDigit = false) := by
    decide
  exact of_decide_eq_true (List.all_eq_true.mp hall c h)

theorem of_eq_newline_iff {c : Char} : of c = newline ↔ c = '\n' ∨ c = '\r' := by
  grind [of]

theorem of_eq_space_iff {c : Char} : of c = space ↔ c = ' ' := by
  grind [of]

theorem of_eq_tab_iff {c : Char} : of c = tab ↔ c = '\t' := by
  grind [of]

theorem of_eq_slash_iff {c : Char} : of c = slash ↔ c = '/' := by
  grind [of]

theorem of_eq_symbol_iff {c : Char} : of c = symbol ↔ c ∈ symbolStarts := by
  have hall : ∀ x ∈ ['\n', '\r', ' ', '\t', '/'], x ∉ symbolStarts := by
    simp [symbolStarts]
  grind [of]

theorem of_eq_identStart_iff {c : Char} : of c = identStart ↔ isIdentStart c := by
  have h := @isIdentStart_eq_false_of_mem c
  grind [of]

theorem of_eq_digit_iff {c : Char} : of c = digit ↔ c.isDigit := by
  have h := @isIdentStart_eq_false_of_mem c
  have hd := @isIdentStart_eq_false_of_isDigit c
  grind [of]

theorem of_eq_quote_iff {c : Char} : of c = quote ↔ c = '"' ∨ c = '\'' := by
  have h := @isIdentStart_eq_false_of_mem c
  have hq : ∀ x ∈ ['"', '\''], x ∉ ['\n', '\r', ' ', '\t', '/'] ++ symbolStarts := by
    simp [symbolStarts]
  grind [of]

end XorScan.CharClass
