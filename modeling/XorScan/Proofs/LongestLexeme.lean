import XorScan.Proofs.LexicalGrammar

namespace XorScan.LongestLexeme

open CharRun CommentExtent LexicalGrammar LiteralUnits

structure Longest (r : List Char) (k : Kind) (w : List Char) : Prop where
  lexeme : IsLexeme k w
  front : w <+: r
  longest : ∀ k' w', IsLexeme k' w' → w' <+: r → w'.length ≤ w.length

/-- What reading the front of `c :: r` should give: the longest lexeme, or none where none is. -/
def Fits (c : Char) (r : List Char) : Except Refusal Lexeme → Prop
  | .ok l => Longest (c :: r) l.kind (c :: r.take l.tail)
  | .error _ => ∀ k w, IsLexeme k w → ¬ w <+: c :: r

variable {c : Char} {r : List Char}

theorem exists_shape_of_prefix {k : Kind} {w : List Char} (h : IsLexeme k w) (hp : w <+: c :: r) :
    ∃ x, w = c :: x ∧ x <+: r ∧ Shape k c x (CharClass.of c) := by
  obtain ⟨b, x, rfl⟩ := List.exists_cons_of_ne_nil h.ne_nil
  obtain ⟨rfl, hx⟩ := List.cons_prefix_cons.mp hp
  exact ⟨x, rfl, hx, h.shape⟩

theorem fits_ok {l : Lexeme} (h : IsLexeme l.kind (c :: r.take l.tail))
    (hmax : ∀ k x, Shape k c x (CharClass.of c) → x <+: r → x.length ≤ l.tail) :
    Fits c r (.ok l) := by
  refine ⟨h, (List.prefix_cons_inj c).mpr (List.take_prefix _ r), ?_⟩
  intro k w hw hp
  obtain ⟨x, rfl, hx, hs⟩ := exists_shape_of_prefix hw hp
  have hl := hmax k x hs hx
  have hr := hx.length_le
  simp only [List.length_cons, List.length_take]
  omega

theorem fits_error {f : Refusal} (h : ∀ k x, Shape k c x (CharClass.of c) → ¬ x <+: r) :
    Fits c r (.error f) := by
  intro k w hw hp
  obtain ⟨x, rfl, hx, hs⟩ := exists_shape_of_prefix hw hp
  exact h k x hs hx

theorem fits_newline (hc : CharClass.of c = .newline) : Fits c r (Lexeme.newline c r) := by
  unfold Lexeme.newline
  split
  next hn =>
    subst hn
    refine fits_ok .lineFeed ?_
    rintro k x ⟨-, ⟨-, rfl⟩ | ⟨hn, -⟩⟩ -
    · simp
    · cases hn
  next hn =>
    have hcr : c = '\r' := (CharClass.of_eq_newline_iff.mp hc).resolve_left hn
    subst hcr
    split
    next hr =>
      obtain ⟨t, rfl⟩ := List.head?_eq_some_iff.mp hr
      refine fits_ok .lineEnd ?_
      rintro k x ⟨-, ⟨hn, -⟩ | ⟨-, rfl⟩⟩ -
      · cases hn
      · simp
    next hr =>
      refine fits_error ?_
      rintro k x ⟨-, ⟨hn, -⟩ | ⟨-, rfl⟩⟩ hp
      · cases hn
      · obtain ⟨t, rfl⟩ := hp
        exact hr rfl

theorem fits_space : Fits ' ' r (.ok ⟨.trivia .space, 0⟩) := by
  refine fits_ok .space ?_
  rintro k x ⟨-, rfl⟩ -
  simp

theorem fits_tab : Fits '\t' r (.ok ⟨.trivia .tab, 0⟩) := by
  refine fits_ok .tab ?_
  rintro k x ⟨-, rfl⟩ -
  simp

theorem fits_symbol (hc : CharClass.of c = .symbol ∨ CharClass.of c = .slash)
    (hs : ∀ k x, Shape k c x (CharClass.of c) → x <+: r → ∃ y : Symbol, y.spelling = c :: x) :
    Fits c r (Lexeme.symbol c r) := by
  obtain ⟨y, hy⟩ := SymbolTable.longest?_isSome hc r
  obtain ⟨z, hz⟩ := SymbolTable.exists_spelling_of_class hc
  have hlen : 1 ≤ y.spelling.length := by
    have := SymbolTable.length_le_longest? hy (z := z) (by simp [hz])
    simpa [hz] using this
  have htake : c :: r.take (y.spelling.length - 1) = y.spelling := by
    have h := List.prefix_iff_eq_take.mp (SymbolTable.longest?_prefix hy)
    obtain ⟨n, hn⟩ : ∃ n, y.spelling.length = n + 1 := ⟨y.spelling.length - 1, by omega⟩
    rw [hn, List.take_succ_cons] at h
    rw [hn, Nat.add_sub_cancel, ← h]
  rw [Lexeme.symbol, hy]
  refine fits_ok (by rw [htake]; exact .symbol y) ?_
  intro k x hx hp
  obtain ⟨x', hx'⟩ := hs k x hx hp
  have := SymbolTable.length_le_longest? hy (z := x') (by simpa [hx'] using hp)
  simp only [hx', List.length_cons] at this
  dsimp only
  omega

theorem fits_word (hc : CharClass.of c = .identStart) : Fits c r (.ok (Lexeme.word c r)) := by
  obtain ⟨w, t, rfl, hr⟩ := exists_isRun CharClass.isIdentContinue r
  have hw : Lexeme.word c (w ++ t) = ⟨wordKind (c :: w), w.length⟩ := by
    simp [Lexeme.word, wordKind, hr.takeWhile]
  rw [hw]
  refine fits_ok ?_ ?_
  · have hs := CharClass.of_eq_identStart_iff.mp hc
    simp only [List.take_left]
    exact .word (by simpa [CharClass.isIdentStart] using hs)
      (by simpa [CharClass.isIdentContinue] using hr.all)
  · rw [hc]
    rintro k x ⟨-, hx⟩ hp
    exact hr.length_le hx hp

theorem number_of_point {w t : List Char} {d : Char} {f : List Char}
    (hw : IsRun Char.isDigit w ('.' :: (d :: f ++ t))) (hf : IsRun Char.isDigit (d :: f) t) :
    Lexeme.number (w ++ '.' :: (d :: f ++ t)) =
      ⟨.literal .decimal, (w ++ '.' :: d :: f).length⟩ := by
  have hd : d.isDigit = true := hf.all d (by simp)
  have ht := hf.takeWhile
  unfold Lexeme.number
  rw [hw.takeWhile]
  simp only [List.drop_left, List.cons_append] at ht ⊢
  simp only [hd, ↓reduceIte, ht, List.length_append, List.length_cons, Lexeme.mk.injEq, true_and]
  omega

theorem number_of_no_point {w t : List Char} (hw : IsRun Char.isDigit w t)
    (ht : ∀ d f, t = '.' :: d :: f → d.isDigit = false) :
    Lexeme.number (w ++ t) = ⟨.literal .number, w.length⟩ := by
  unfold Lexeme.number
  rw [hw.takeWhile]
  dsimp only
  rw [List.drop_left]
  split
  next d f => simp [ht d f rfl]
  · rfl

/-- A point in a lexeme stands where the run of digits ends. -/
theorem point_after_run {a f w t : List Char} (ha : ∀ x ∈ a, x.isDigit = true)
    (hw : IsRun Char.isDigit w t) (hp : a ++ '.' :: f <+: w ++ t) : a = w ∧ '.' :: f <+: t := by
  obtain ⟨z, hz⟩ := hp
  have hrun : IsRun Char.isDigit a ('.' :: f ++ z) := ⟨ha, by simp +decide⟩
  obtain ⟨rfl, ht⟩ := hrun.unique hw (by rw [← hz, List.append_assoc])
  exact ⟨rfl, z, ht⟩

theorem fits_number (hc : CharClass.of c = .digit) : Fits c r (.ok (Lexeme.number r)) := by
  obtain ⟨w, t, rfl, hr⟩ := exists_isRun Char.isDigit r
  have hcd := CharClass.of_eq_digit_iff.mp hc
  have hall : ∀ x ∈ c :: w, x.isDigit = true := by simpa [hcd] using hr.all
  by_cases hp : ∃ d f, t = '.' :: d :: f ∧ d.isDigit = true
  · obtain ⟨d, f, rfl, hd⟩ := hp
    obtain ⟨g, t, hdf, hg⟩ := exists_isRun Char.isDigit f
    subst hdf
    have hg' : IsRun Char.isDigit (d :: g) t := ⟨by simpa [hd] using hg.all, hg.stop⟩
    have hn : Lexeme.number (w ++ '.' :: d :: (g ++ t)) = _ := number_of_point hr hg'
    rw [hn]
    have hw : w ++ '.' :: d :: (g ++ t) = (w ++ '.' :: d :: g) ++ t := by simp
    refine fits_ok ?_ ?_
    · rw [hw, List.take_left]
      exact .decimal hall hg'.all
    · rw [hc]
      rintro k x (⟨-, hx⟩ | ⟨-, a, b, f, rfl, ha, hf⟩) hp
      · have := hr.length_le hx hp
        simp only [List.length_append]
        omega
      · obtain ⟨rfl, hf'⟩ := point_after_run ha hr hp
        have := hg'.length_le hf (List.cons_prefix_cons.mp hf').2
        simp only [List.length_append, List.length_cons] at this ⊢
        omega
  · have ht : ∀ d f, t = '.' :: d :: f → d.isDigit = false := by
      intro d f htd
      exact Bool.eq_false_iff.mpr fun hd => hp ⟨d, f, htd, hd⟩
    rw [number_of_no_point hr ht]
    refine fits_ok ?_ ?_
    · simp only [List.take_left]
      exact .number hall
    · rw [hc]
      rintro k x (⟨-, hx⟩ | ⟨-, a, b, f, rfl, ha, hf⟩) hp'
      · exact hr.length_le hx hp'
      · obtain ⟨rfl, z, hz⟩ := point_after_run ha hr hp'
        exact absurd ⟨b, f ++ z, hz.symm, hf b (by simp)⟩ hp

theorem quote_ne {c : Char} (hc : CharClass.of c = .quote) : c ≠ '\\' ∧ c ≠ '\n' := by
  obtain rfl | rfl := CharClass.of_eq_quote_iff.mp hc <;> decide

/-- A literal at the front of a text is read up to its closing quote. -/
theorem read_of_shape {k : Kind} {x : List Char} (hc : CharClass.of c = .quote)
    (hs : Shape k c x (CharClass.of c)) (hp : x <+: r) :
    ∃ vs, LiteralBody.read c r = ⟨vs, x.length - 1, .closed⟩ ∧ (c = '\'' → vs.length = 1) := by
  obtain ⟨hb, hn⟩ := quote_ne hc
  obtain ⟨t, rfl⟩ := hp
  rw [hc] at hs
  obtain ⟨-, rfl, s, vs, rfl, hs⟩ | ⟨-, rfl, u, v, rfl, hu⟩ := hs
  · refine ⟨vs, ?_, by simp +decide⟩
    rw [List.append_assoc, List.singleton_append, read_body hb hn hs .quote]
    simp
  · refine ⟨[v], ?_, by simp⟩
    have hbody := IsBody.cons hu .nil
    rw [List.append_nil] at hbody
    rw [List.append_assoc, List.singleton_append, read_body hb hn hbody .quote]
    simp

theorem fits_quoted (hc : CharClass.of c = .quote) : Fits c r (Lexeme.quoted c r) := by
  obtain ⟨hb, hn⟩ := quote_ne hc
  obtain ⟨s, vs, t, e, rfl, hs, ht⟩ := exists_body_halts c r
  have hread := read_body hb hn hs ht
  -- Any lexeme here is a quotation, so reading the body ends where that quotation is closed.
  have hshape : ∀ k x, Shape k c x (CharClass.of c) → x <+: s ++ t →
      e = .closed ∧ x.length ≤ s.length + 1 ∧ (c = '\'' → vs.length = 1) := by
    intro k x hx hp
    obtain ⟨vs', hread', hlen⟩ := read_of_shape hc hx hp
    rw [hread] at hread'
    simp only [LiteralBody.mk.injEq] at hread'
    obtain ⟨rfl, hsize, rfl⟩ := hread'
    exact ⟨rfl, by omega, hlen⟩
  unfold Lexeme.quoted
  rw [hread]
  cases e with
  | cutOff | badEscape e =>
    refine fits_error ?_
    intro k x hx hp
    cases (hshape k x hx hp).1
  | closed =>
    obtain ⟨t, rfl⟩ : ∃ t', t = c :: t' := by
      cases ht
      exact ⟨_, rfl⟩
    have htake : (s ++ c :: t).take (s.length + 1) = s ++ [c] := by
      rw [← List.singleton_append, ← List.append_assoc, List.take_left' (by simp)]
    dsimp only
    split
    next hq =>
      subst hq
      refine fits_ok ?_ (fun k x hx hp => (hshape k x hx hp).2.1)
      rw [htake]
      exact .string hs
    next hq =>
      obtain rfl := (CharClass.of_eq_quote_iff.mp hc).resolve_left hq
      split
      next hlen =>
        refine fits_ok ?_ (fun k x hx hp => (hshape k x hx hp).2.1)
        rw [htake]
        obtain ⟨v, rfl⟩ := List.length_eq_one_iff.mp hlen
        obtain _ | ⟨hu, hnil⟩ := hs
        cases hnil
        rw [List.append_nil]
        exact .character hu
      next hlen =>
        refine fits_error ?_
        intro k x hx hp
        exact hlen ((hshape k x hx hp).2.2 rfl)

end XorScan.LongestLexeme
