import XorScan.Proofs.CarriageReturns
import XorScan.Proofs.Cutting
import XorScan.Proofs.LiteralValues

namespace XorScan.Continuation

open CarriageReturns CommentExtent LexicalGrammar LiteralUnits LiteralValues LongestLexeme MaximalMunch Tokenization

def blanks : List Char := ['\n', '\r', ' ', '\t']

def blankTexts : List (List Char) := [['\n'], ['\r', '\n'], [' '], ['\t']]

theorem head_mem_blanks {c : Char} {w : List Char} (h : c :: w ∈ blankTexts) : c ∈ blanks := by
  simp only [blankTexts, List.mem_cons, List.cons.injEq, List.not_mem_nil, or_false] at h
  obtain ⟨rfl, -⟩ | ⟨rfl, -⟩ | ⟨rfl, -⟩ | ⟨rfl, -⟩ := h <;> decide

theorem isTrivia_wordKind (w : List Char) : (wordKind w).isTrivia = false := by
  obtain h | h := isReserved_wordKind w
  · cases hk : wordKind w <;> simp_all [Kind.isReserved, Kind.isTrivia]
  · rw [h]
    rfl

theorem trivia_cases {k : Kind} {w : List Char} (h : IsLexeme k w) (hk : k.isTrivia = true) :
    w ∈ blankTexts ∧ k ≠ .trivia .comment ∨ ['/', '/'] <+: w ∨ ['/', '*'] <+: w := by
  cases h with
  | lineFeed | lineEnd | space | tab => exact .inl (by decide)
  | lineComment => exact .inr (.inl (List.prefix_append ['/', '/'] _))
  | blockComment => exact .inr (.inr (List.prefix_append ['/', '*'] _))
  | word =>
    rw [isTrivia_wordKind] at hk
    cases hk
  | _ => cases hk

theorem notMem_of_all {p : Char → Bool} {w : List Char} {b : Char} (h : ∀ c ∈ w, p c = true)
    (hb : p b = false) : b ∉ w := by
  intro hm
  rw [h b hm] at hb
  cases hb

theorem of_mem_blanks {b : Char} (hb : b ∈ blanks) : CharClass.isIdentContinue b = false ∧
    b.isDigit = false ∧ b ≠ '.' ∧ b ≠ '/' ∧ b ≠ '*' ∧ b ≠ '"' ∧ b ≠ '\'' := by
  have hall : blanks.all fun b => CharClass.isIdentContinue b = false ∧ b.isDigit = false ∧
      b ≠ '.' ∧ b ≠ '/' ∧ b ≠ '*' ∧ b ≠ '"' ∧ b ≠ '\'' := by decide
  exact of_decide_eq_true (List.all_eq_true.mp hall b hb)

theorem blank_notMem_spelling (y : Symbol) {b : Char} (hb : b ∈ blanks) : b ∉ y.spelling := by
  have hall : blanks.all fun b => b ∉ y.spelling := by cases y <;> decide
  exact of_decide_eq_true (List.all_eq_true.mp hall b hb)

theorem of_blank_mem {k : Kind} {w : List Char} {b : Char} (h : IsLexeme k w) (hb : b ∈ blanks)
    (hm : b ∈ w) : k.isTrivia = true ∨ (quote? k).isSome = true ∧ b ≠ '\n' := by
  obtain ⟨hword, hdigit, hpoint, -, -, hstring, hchar⟩ := of_mem_blanks hb
  cases h with
  | lineFeed | lineEnd | space | tab | lineComment | blockComment => exact .inl rfl
  | symbol y => exact absurd hm (blank_notMem_spelling y hb)
  | @word c w hc hw =>
    have hall : ∀ x ∈ c :: w, CharClass.isIdentContinue x = true := by
      intro x hx
      obtain rfl | hx := List.mem_cons.mp hx
      · obtain hc | rfl := hc
        · simp [CharClass.isIdentContinue, Char.isAlphanum, hc]
        · decide
      · simpa [CharClass.isIdentContinue] using hw x hx
    exact absurd hm (notMem_of_all hall hword)
  | number hd => exact absurd hm (notMem_of_all hd hdigit)
  | decimal hd hf =>
    obtain hm | hm := List.mem_append.mp hm
    · exact absurd hm (notMem_of_all hd hdigit)
    · obtain hm | hm := List.mem_cons.mp hm
      · exact absurd hm hpoint
      · exact absurd hm (notMem_of_all hf hdigit)
  | string hs =>
    refine .inr ⟨rfl, ?_⟩
    rintro rfl
    simp [lineFeed_notMem_of_isBody hs] at hm
  | character hu =>
    refine .inr ⟨rfl, ?_⟩
    rintro rfl
    simp [lineFeed_notMem_of_isUnit hu] at hm

theorem prefix_of_notMem {z x y : List Char} {b : Char} (h : z <+: x ++ b :: y) (hb : b ∉ z) :
    z <+: x := by
  obtain hz | ⟨u, rfl⟩ := List.prefix_or_prefix_of_prefix h (List.prefix_append x (b :: y))
  · exact hz
  · cases u with
    | nil => rw [List.append_nil]
    | cons c u =>
      obtain ⟨rfl, -⟩ := List.cons_prefix_cons.mp ((List.prefix_append_right_inj x).mp h)
      simp at hb

theorem mark_of_append {x y : List Char} {b d : Char} (hb : b ∈ blanks) (hd : d = '/' ∨ d = '*')
    (h : ['/', d] <+: x ++ b :: y) : ['/', d] <+: x := by
  obtain ⟨-, -, -, hs, ha, -⟩ := of_mem_blanks hb
  apply prefix_of_notMem h
  obtain rfl | rfl := hd <;> simp [hs, ha]

theorem class_of_quote? {k : Kind} {d : Char} (h : quote? k = some d) :
    CharClass.of d = .quote := by
  unfold quote? at h
  split at h <;> cases h <;> rfl

theorem exists_quote {k : Kind} {c : Char} {w : List Char} (h : IsLexeme k (c :: w))
    (hk : (quote? k).isSome = true) : CharClass.of c = .quote := by
  obtain ⟨d, hd⟩ := Option.isSome_iff_exists.mp hk
  obtain ⟨s, vs, hw, -⟩ := body_of_lexeme h hd
  obtain ⟨rfl, -⟩ := List.cons.inj hw
  exact class_of_quote? hd

theorem head_notMem_blanks {k : Kind} {c : Char} {w : List Char} (h : IsLexeme k (c :: w))
    (hk : k.isTrivia = false) : c ∉ blanks := by
  intro hb
  obtain ht | ⟨hq, -⟩ := of_blank_mem h hb List.mem_cons_self
  · rw [hk] at ht
    cases ht
  · obtain ⟨-, -, -, -, -, hstring, hchar⟩ := of_mem_blanks hb
    obtain hc | hc := CharClass.of_eq_quote_iff.mp (exists_quote h hq)
    · exact hstring hc
    · exact hchar hc

/-- One literal at the front of a text is as long as any other. -/
theorem literal_length_le {c : Char} {w v r : List Char} {k k' : Kind}
    (h : IsLexeme k (c :: w)) (h' : IsLexeme k' (c :: v)) (hc : CharClass.of c = .quote)
    (hp : w <+: r) (hp' : v <+: r) : v.length ≤ w.length := by
  obtain ⟨vs, hread, -⟩ := read_of_shape hc h.shape hp
  obtain ⟨vs', hread', -⟩ := read_of_shape hc h'.shape hp'
  have hsize := congrArg LiteralBody.size (hread.symm.trans hread')
  have hw : w ≠ [] := by
    have hs := h.shape
    rw [hc] at hs
    obtain ⟨-, -, s, vs, rfl, -⟩ | ⟨-, -, u, v, rfl, -⟩ := hs <;> simp
  have hpos := List.length_pos_of_ne_nil hw
  simp only at hsize
  omega

/-- A token is the same before any blank. -/
theorem step_before_blank {k : Kind} {w : List Char} {b : Char} (h : IsLexeme k w)
    (hk : k.isTrivia = false) (hb : b ∈ blanks) (x : List Char) : Step (w ++ b :: x) k w := by
  have hmark : ∀ d, d = '/' ∨ d = '*' → ¬ ['/', d] <+: w ++ b :: x := by
    intro d hd hp
    obtain ⟨y, rfl⟩ := mark_of_append hb hd hp
    rw [kind_of_mark h hd] at hk
    cases hk
  refine .longest (hmark '*' (.inr rfl)) (hmark '/' (.inl rfl)) ⟨h, List.prefix_append _ _, ?_⟩
  intro k' v h' hp
  by_cases hm : b ∈ v
  · obtain ⟨c, w, rfl⟩ := List.exists_cons_of_ne_nil h.ne_nil
    obtain ⟨c', v, rfl⟩ := List.exists_cons_of_ne_nil h'.ne_nil
    obtain ⟨rfl, hv⟩ := List.cons_prefix_cons.mp hp
    obtain ht | ⟨hq, -⟩ := of_blank_mem h' hb hm
    · obtain ⟨hw, -⟩ | hp' | hp' := trivia_cases h' ht
      · exact absurd (head_mem_blanks hw) (head_notMem_blanks h hk)
      · exact absurd (hp'.trans hp) (hmark '/' (.inl rfl))
      · exact absurd (hp'.trans hp) (hmark '*' (.inr rfl))
    · have hlen := literal_length_le h h' (exists_quote h' hq) (List.prefix_append w (b :: x)) hv
      simpa using hlen
  · exact (prefix_of_notMem hp hm).length_le

theorem isLine_extend {w y t : List Char} (h : IsLine w y) (he : EndsLine (y ++ t))
    (hr : (w ++ y).getLast? ≠ some '\r' ∨ y ≠ []) : IsLine w (y ++ t) := by
  refine ⟨he, ?_⟩
  rintro u v rfl hv hend
  have hp : v ++ y <+: v ++ (y ++ t) := by
    rw [← List.append_assoc]
    exact List.prefix_append _ t
  refine h.2 u v rfl hv (Cutting.endsLine_cut hend hp ?_)
  intro hvy
  obtain ⟨rfl, -⟩ | ⟨rfl, rfl⟩ := List.append_eq_singleton_iff.mp hvy
  · exact hv rfl
  · obtain hr | hr := hr
    · simp at hr
    · exact hr rfl

theorem isLine_append {w y : List Char} (h : IsLine w y) (hy : y ≠ []) (t : List Char) :
    IsLine w (y ++ t) :=
  isLine_extend h (Cutting.endsLine_extend h.1 hy (List.prefix_append y t)) (.inr hy)

theorem step_blankText {k : Kind} {w : List Char} (h : IsLexeme k w) (hw : w ∈ blankTexts)
    (r : List Char) : Step (w ++ r) k w := by
  have hstep : ∃ k, Step (w ++ r) k w := by
    simp only [blankTexts, List.mem_cons, List.not_mem_nil, or_false] at hw
    obtain rfl | rfl | rfl | rfl := hw
    · exact ⟨_, step_iff_front.mpr ⟨⟨.trivia .newline, 0⟩, rfl, rfl, rfl⟩⟩
    · exact ⟨_, step_iff_front.mpr ⟨⟨.trivia .newline, 1⟩, rfl, rfl, rfl⟩⟩
    · exact ⟨_, step_iff_front.mpr ⟨⟨.trivia .space, 0⟩, rfl, rfl, rfl⟩⟩
    · exact ⟨_, step_iff_front.mpr ⟨⟨.trivia .tab, 0⟩, rfl, rfl, rfl⟩⟩
  obtain ⟨k', hs⟩ := hstep
  rwa [h.kind_unique hs.lexeme]

/-- Trivia are the same before any text, unless they are a line comment that nothing ends. -/
theorem step_trivia_append {k : Kind} {w r : List Char} (h : Step (w ++ r) k w)
    (hk : k.isTrivia = true) (hr : r ≠ [] ∨ ¬ ['/', '/'] <+: w) (x : List Char) :
    Step (w ++ (r ++ x)) k w := by
  cases h with
  | blockComment hw => exact .blockComment hw (List.prefix_append _ _)
  | @lineComment w t he hw =>
    obtain rfl := List.append_cancel_left he
    obtain hr | hr := hr
    · exact .lineComment rfl (isLine_append hw hr x)
    · exact absurd (List.prefix_append ['/', '/'] w) hr
  | longest hb hl h =>
    obtain ⟨hw, -⟩ | hp | hp := trivia_cases h.lexeme hk
    · exact step_blankText h.lexeme hw (r ++ x)
    · exact absurd (hp.trans h.front) hl
    · exact absurd (hp.trans h.front) hb

/-- A line end, space or tab reaches behind a text only if it is the line end that a carriage return
there begins. -/
theorem blankText_prefix {v z y : List Char} (hv : v ∈ blankTexts) (hp : v <+: z ++ y)
    (hz : z ≠ []) (hcr : z.getLast? ≠ some '\r') : v <+: z := by
  apply List.prefix_of_prefix_length_le hp (List.prefix_append z y)
  obtain ⟨c, z, rfl⟩ := List.exists_cons_of_ne_nil hz
  simp only [blankTexts, List.mem_cons, List.not_mem_nil, or_false] at hv
  obtain rfl | rfl | rfl | rfl := hv
  · simp
  · obtain ⟨rfl, -⟩ := List.cons_prefix_cons.mp hp
    cases z with
    | nil => exact absurd rfl hcr
    | cons d z => simp
  · simp
  · simp

/-- A step is the same when a line feed ends the text, with anything behind it. -/
theorem step_before_lineFeed {k : Kind} {w r : List Char} (h : Step (w ++ r) k w)
    (hcr : (w ++ r).getLast? ≠ some '\r') (x : List Char) :
    Step (w ++ (r ++ '\n' :: x)) k w := by
  have hblank : '\n' ∈ blanks := by decide
  have hmark : ∀ d, d = '/' ∨ d = '*' → ['/', d] <+: w ++ (r ++ '\n' :: x) →
      ['/', d] <+: w ++ r := by
    intro d hd hp
    rw [← List.append_assoc] at hp
    exact mark_of_append hblank hd hp
  cases h with
  | blockComment hw => exact .blockComment hw (List.prefix_append _ _)
  | @lineComment w t he hw =>
    obtain rfl := List.append_cancel_left he
    refine .lineComment rfl (isLine_extend hw ?_ (.inl ?_))
    · cases r with
      | nil => exact .inr ⟨x, .inl rfl⟩
      | cons c r => exact Cutting.endsLine_extend hw.1 (by simp) (List.prefix_append _ _)
    · intro hlast
      apply hcr
      have hsplit : '/' :: '/' :: w ++ r = ['/', '/'] ++ (w ++ r) := rfl
      rw [hsplit, List.getLast?_append, hlast]
      rfl
  | longest hb hl h =>
    refine .longest (mt (hmark '*' (.inr rfl)) hb) (mt (hmark '/' (.inl rfl)) hl)
      ⟨h.lexeme, List.prefix_append _ _, ?_⟩
    intro k' v h' hp
    refine h.longest k' v h' ?_
    rw [← List.append_assoc] at hp
    -- A rival that reaches the line feed is trivia: a quotation does not go past the end of a line.
    by_cases hm : '\n' ∈ v
    · obtain ht | ⟨-, hn⟩ := of_blank_mem h' hblank hm
      · obtain ⟨hv, -⟩ | hp' | hp' := trivia_cases h' ht
        · exact blankText_prefix hv hp (by simp [h.lexeme.ne_nil]) hcr
        · rw [List.append_assoc] at hp
          exact absurd (hmark '/' (.inl rfl) (hp'.trans hp)) hl
        · rw [List.append_assoc] at hp
          exact absurd (hmark '*' (.inr rfl) (hp'.trans hp)) hb
      · exact absurd rfl hn
    · exact prefix_of_notMem hp hm

/-- Steps through a text are the same with more text behind it if each of them is. -/
theorem munches_extend {s u x : List Char} {ls : List (Kind × List Char)} (h : Munches s ls u)
    (hx : ∀ k w r ms, (k, w) :: ms <:+ ls → w ++ r <:+ s → Step (w ++ r) k w → Munches r ms u →
      Step (w ++ (r ++ x)) k w) : Munches (s ++ x) ls (u ++ x) := by
  induction h with
  | done => exact .done
  | @step w r u k ls hs hr ih =>
    rw [List.append_assoc]
    refine .step (hx k w r ls List.suffix_rfl List.suffix_rfl hs hr) (ih ?_)
    intro k' w' r' ms hms hw'
    exact hx k' w' r' ms (hms.trans (List.suffix_cons _ ls)) (hw'.trans (List.suffix_append w r))

end XorScan.Continuation
