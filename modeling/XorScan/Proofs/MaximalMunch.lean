import XorScan.Proofs.LongestLexeme

namespace XorScan.MaximalMunch

open CommentExtent LexicalGrammar LongestLexeme

/-- One step: a block comment runs to the first `*/`, a line comment to the end of its line, and
otherwise the longest lexeme is taken. -/
inductive Step (r : List Char) : Kind → List Char → Prop
  | blockComment {w : List Char} (hw : Closes w) (hr : '/' :: '*' :: w <+: r) :
      Step r (.trivia .comment) ('/' :: '*' :: w)
  | lineComment {w t : List Char} (hr : r = '/' :: '/' :: w ++ t) (hw : IsLine w t) :
      Step r (.trivia .comment) ('/' :: '/' :: w)
  | longest {k : Kind} {w : List Char} (hb : ¬ ['/', '*'] <+: r) (hl : ¬ ['/', '/'] <+: r)
      (h : Longest r k w) : Step r k w

theorem Step.front {r w : List Char} {k : Kind} (h : Step r k w) : w <+: r := by
  cases h with
  | blockComment hw hr => exact hr
  | lineComment hr hw => exact hr ▸ List.prefix_append _ _
  | longest hb hl h => exact h.front

theorem lineFeed_notMem_of_isLine {w t : List Char} (h : IsLine w t) : '\n' ∉ w := by
  intro hm
  obtain ⟨u, v, rfl⟩ := List.append_of_mem hm
  exact h.2 u ('\n' :: v) rfl (by simp) (.inr ⟨v ++ t, .inl rfl⟩)

theorem Step.lexeme {r w : List Char} {k : Kind} (h : Step r k w) : IsLexeme k w := by
  cases h with
  | blockComment hw hr => exact .blockComment hw
  | lineComment hr hw => exact .lineComment (lineFeed_notMem_of_isLine hw)
  | longest hb hl h => exact h.lexeme

theorem front_blockComment {b : List Char} :
    Lexeme.front '/' ('*' :: b) = match Lexeme.closingLength? b with
      | some n => .ok ⟨.trivia .comment, n + 1⟩
      | none => .error ⟨.unterminatedComment, 0⟩ := rfl

theorem front_lineComment {w t : List Char} (h : IsLine w t) :
    Lexeme.front '/' ('/' :: (w ++ t)) = .ok ⟨.trivia .comment, w.length + 1⟩ := by
  have hl : Lexeme.lineLength ('/' :: (w ++ t)) = w.length + 1 := by
    simp [Lexeme.lineLength, lineLength_append h]
  change Except.ok (⟨.trivia .comment, Lexeme.lineLength ('/' :: (w ++ t))⟩ : Lexeme) = _
  rw [hl]

variable {c : Char} {r : List Char}

theorem front_fits (hb : ¬ ['/', '*'] <+: c :: r) (hl : ¬ ['/', '/'] <+: c :: r) :
    Fits c r (Lexeme.front c r) := by
  unfold Lexeme.front
  split
  next hc => exact fits_newline hc
  next hc =>
    obtain rfl := CharClass.of_eq_space_iff.mp hc
    exact fits_space
  next hc =>
    obtain rfl := CharClass.of_eq_tab_iff.mp hc
    exact fits_tab
  next hc =>
    obtain rfl := CharClass.of_eq_slash_iff.mp hc
    unfold Lexeme.slash
    split
    · simp at hl
    · simp at hb
    next h1 h2 =>
      refine fits_symbol (.inr hc) ?_
      rintro k x (⟨-, b, rfl | rfl⟩ | ⟨y, -, hy⟩) ⟨t, rfl⟩
      · exact (h1 (b ++ t) rfl).elim
      · exact (h2 (b ++ t) rfl).elim
      · exact ⟨y, hy⟩
  next hc =>
    refine fits_symbol (.inl hc) ?_
    rw [hc]
    rintro k x ⟨y, -, hy⟩ -
    exact ⟨y, hy⟩
  next hc => exact fits_word hc
  next hc => exact fits_number hc
  next hc => exact fits_quoted hc
  next hc =>
    refine fits_error ?_
    rw [hc]
    rintro k x ⟨⟩

theorem exists_front_of_step {k : Kind} {w : List Char} (h : Step (c :: r) k w) :
    ∃ l, Lexeme.front c r = .ok l ∧ k = l.kind ∧ w = c :: r.take l.tail := by
  cases h with
  | @blockComment w hw hr =>
    obtain ⟨t, ht⟩ := hr
    simp only [List.cons_append, List.cons.injEq] at ht
    obtain ⟨rfl, rfl⟩ := ht
    refine ⟨⟨.trivia .comment, w.length + 1⟩, ?_, rfl, by simp⟩
    rw [front_blockComment, closingLength?_append hw]
  | @lineComment w t hr hw =>
    cases hr
    exact ⟨⟨.trivia .comment, w.length + 1⟩, front_lineComment hw, rfl, by simp⟩
  | longest hb hl h =>
    have hf := front_fits hb hl
    cases hfr : Lexeme.front c r with
    | error f =>
      rw [hfr] at hf
      exact (hf k w h.lexeme h.front).elim
    | ok l =>
      rw [hfr] at hf
      -- Both are longest lexemes at one front, so each is as long as the other.
      have hlen : w.length = (c :: r.take l.tail).length :=
        Nat.le_antisymm (hf.longest k w h.lexeme h.front) (h.longest _ _ hf.lexeme hf.front)
      have hw : w = c :: r.take l.tail :=
        (List.prefix_of_prefix_length_le h.front hf.front (Nat.le_of_eq hlen)).eq_of_length hlen
      exact ⟨l, rfl, (hw ▸ h.lexeme).kind_unique hf.lexeme, hw⟩

theorem step_of_front {l : Lexeme} (hl : Lexeme.front c r = .ok l) :
    Step (c :: r) l.kind (c :: r.take l.tail) := by
  by_cases hb : ['/', '*'] <+: c :: r
  · obtain ⟨b, hb⟩ := hb
    simp only [List.cons_append, List.nil_append, List.cons.injEq] at hb
    obtain ⟨rfl, rfl⟩ := hb
    rw [front_blockComment] at hl
    split at hl
    next n hn =>
      cases hl
      obtain ⟨w, t, rfl, rfl, hw⟩ := closes_of_closingLength? hn
      simp only [List.take_succ_cons, List.take_left]
      exact .blockComment hw ⟨t, rfl⟩
    · cases hl
  · by_cases hs : ['/', '/'] <+: c :: r
    · obtain ⟨b, hs⟩ := hs
      simp only [List.cons_append, List.nil_append, List.cons.injEq] at hs
      obtain ⟨rfl, rfl⟩ := hs
      obtain ⟨w, t, rfl, hw⟩ := exists_isLine b
      rw [front_lineComment hw] at hl
      cases hl
      simp only [List.take_succ_cons, List.take_left]
      exact .lineComment rfl hw
    · have hf := front_fits hb hs
      rw [hl] at hf
      exact .longest hb hs hf

/-- The front of a text is read exactly as one step takes it. -/
theorem step_iff_front {k : Kind} {w : List Char} :
    Step (c :: r) k w ↔ ∃ l, Lexeme.front c r = .ok l ∧ k = l.kind ∧ w = c :: r.take l.tail := by
  constructor
  · exact exists_front_of_step
  · rintro ⟨l, hl, rfl, rfl⟩
    exact step_of_front hl

theorem Step.unique {r w w' : List Char} {k k' : Kind} (h : Step r k w) (h' : Step r k' w') :
    k = k' ∧ w = w' := by
  obtain ⟨c, x, rfl⟩ := List.exists_cons_of_ne_nil h.lexeme.ne_nil
  obtain ⟨t, rfl⟩ := h.front
  obtain ⟨l, hl, rfl, hw⟩ := step_iff_front.mp h
  obtain ⟨l', hl', rfl, rfl⟩ := step_iff_front.mp h'
  rw [hl] at hl'
  cases hl'
  exact ⟨rfl, hw⟩

theorem kind_of_mark {c : Char} {x : List Char} {k : Kind} (h : IsLexeme k ('/' :: c :: x))
    (hc : c = '/' ∨ c = '*') : k = .trivia .comment := by
  obtain ⟨hk, -⟩ | ⟨y, -, hy⟩ := h.shape
  · exact hk
  · obtain ⟨hs, hb⟩ := SymbolTable.spelling_ne_comment y x
    obtain rfl | rfl := hc
    · exact absurd hy hs
    · exact absurd hy hb

theorem step_self {w : List Char} {k : Kind} (h : IsLexeme k w) : Step w k w := by
  by_cases hk : k = .trivia .comment
  · cases h with
    | lineComment hw =>
      exact .lineComment (List.append_nil _).symm (isLine_of_notMem hw (.inl rfl) (by simp))
    | blockComment hw => exact .blockComment hw List.prefix_rfl
    | @word c w =>
      have hr := isReserved_wordKind (c :: w)
      simp [hk, Kind.isReserved] at hr
    | _ => cases hk
  · have hmark : ∀ c, c = '/' ∨ c = '*' → ¬ ['/', c] <+: w := by
      rintro c hc ⟨x, rfl⟩
      exact hk (kind_of_mark h hc)
    exact .longest (hmark '*' (.inr rfl)) (hmark '/' (.inl rfl))
      ⟨h, List.prefix_rfl, fun _ _ _ hp => hp.length_le⟩

end XorScan.MaximalMunch
