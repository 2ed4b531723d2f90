import XorScan.Proofs.Continuation

namespace XorScan.Respacing

open Continuation LexicalGrammar MaximalMunch Tokenization

def piece (t : Token) : Kind × List Char := (t.kind, t.text)

def isSignificant (p : Kind × List Char) : Bool := !p.1.isTrivia && !(p.1 = .endOfInput : Bool)

/-- A significant token of some source that scans. -/
def Found (p : Kind × List Char) : Prop :=
  ∃ s ts t, tokenize s = .ok ts ∧ t ∈ ts ∧ t.isSignificant = true ∧ p = piece t

/-- A text that may stand between two tokens: it scans to the trivia `us`, of which the first is no
comment and the last no line comment. -/
structure IsGap (g : List Char) (us : List Token) : Prop where
  scans : ∃ e, e.kind = .endOfInput ∧ tokenize g = .ok (us ++ [e])
  trivia : ∀ t ∈ us, t.isTrivia = true
  first : ∃ t ∈ us.head?,
    t.kind = .trivia .newline ∨ t.kind = .trivia .space ∨ t.kind = .trivia .tab
  last : ∀ t ∈ us.getLast?, ¬ ['/', '/'] <+: t.text

def alternate {α : Type} : List α → List α → List α
  | x :: xs, y :: ys => x :: y :: alternate xs ys
  | xs, [] => xs
  | [], ys => ys

@[simp] theorem alternate_nil {α : Type} (xs : List α) : alternate xs [] = xs := by
  cases xs <;> rfl

theorem map_piece_place (p : Position) (ls : List (Kind × List Char)) :
    (place p ls).map piece = ls := by
  induction ls generalizing p with
  | nil => rfl
  | cons l ls ih => simp [place, piece, ih]

theorem munches_trans {s t u : List Char} {ls ms : List (Kind × List Char)}
    (h : Munches s ls t) (h' : Munches t ms u) : Munches s (ls ++ ms) u := by
  induction h with
  | done => exact h'
  | step hs hr ih => exact .step hs (ih h')

theorem Found.lexeme {p : Kind × List Char} (h : Found p) :
    IsLexeme p.1 p.2 ∧ p.1.isTrivia = false := by
  obtain ⟨s, ts, t, hs, ht, hsig, rfl⟩ := h
  obtain ⟨ls, hm, rfl⟩ := munches_of_tokenize hs
  obtain ⟨htriv, hend⟩ : t.isTrivia = false ∧ t.isEndOfInput = false := by
    simpa [Token.isSignificant] using hsig
  obtain ht | ht := List.mem_append.mp ht
  · exact ⟨hm.isLexeme_of_mem _ (mem_of_mem_place ht), htriv⟩
  · obtain rfl := List.mem_singleton.mp ht
    cases hend

theorem munches_trivia_append {g : List Char} {us : List (Kind × List Char)} (h : Munches g us [])
    (hus : ∀ u ∈ us, u.1.isTrivia = true)
    (hlast : ∀ u, us.getLast? = some u → ¬ ['/', '/'] <+: u.2) (x : List Char) :
    Munches (g ++ x) us x := by
  apply munches_extend h
  intro k w r ms hms _ hs hr
  refine step_trivia_append hs (hus _ (hms.mem List.mem_cons_self)) ?_ x
  cases ms with
  | nil =>
    obtain ⟨vs, rfl⟩ := hms
    exact .inr (hlast (k, w) List.getLast?_concat)
  | cons u ms =>
    cases hr with
    | step hs' => exact .inl (by simp [hs'.lexeme.ne_nil])

theorem exists_blank {c : Char} {w : List Char} {k : Kind} (h : IsLexeme k (c :: w))
    (hk : k.isTrivia = true) (hc : k ≠ .trivia .comment) : c ∈ blanks := by
  obtain ⟨hw, -⟩ | ⟨x, hx⟩ | ⟨x, hx⟩ := trivia_cases h hk
  · exact head_mem_blanks hw
  · rw [← hx] at h
    exact absurd (kind_of_mark h (.inl rfl)) hc
  · rw [← hx] at h
    exact absurd (kind_of_mark h (.inr rfl)) hc

/-- The trivia of a gap are the same between any two tokens, and a blank comes first. -/
theorem IsGap.munches {g : List Char} {us : List Token} (h : IsGap g us) :
    (∃ b y, b ∈ blanks ∧ g = b :: y) ∧ ∀ x, Munches (g ++ x) (us.map piece) x := by
  obtain ⟨⟨e, -, hg⟩, htriv, ⟨t, ht, hk⟩, hlast⟩ := h
  obtain ⟨ls, hm, hus⟩ := munches_of_tokenize hg
  obtain ⟨rfl, -⟩ := List.append_inj' hus rfl
  have htriv' : ∀ u ∈ ls, u.1.isTrivia = true := by
    intro u hu
    rw [← map_piece_place .start ls] at hu
    obtain ⟨t, ht, rfl⟩ := List.mem_map.mp hu
    exact htriv t ht
  have hlast' : ∀ u, ls.getLast? = some u → ¬ ['/', '/'] <+: u.2 := by
    intro u hu
    rw [← map_piece_place .start ls, List.getLast?_map] at hu
    obtain ⟨t, ht, rfl⟩ := Option.map_eq_some_iff.mp hu
    exact hlast t ht
  constructor
  · cases hm with
    | done => cases ht
    | @step w r _ k ls hs hr =>
      cases ht
      obtain ⟨b, w, rfl⟩ := List.exists_cons_of_ne_nil hs.lexeme.ne_nil
      refine ⟨b, w ++ r, exists_blank hs.lexeme (htriv' _ List.mem_cons_self) ?_, rfl⟩
      obtain rfl | rfl | rfl := hk <;> simp
  · intro x
    rw [map_piece_place]
    exact munches_trivia_append hm htriv' hlast' x

/-- Tokens with gaps between them are taken one by one, and the trivia of each gap between its
neighbours. -/
theorem munches_alternate {ps : List (Kind × List Char)} {gs : List (List Char × List Token)}
    (hps : ∀ p ∈ ps, Found p) (hgs : ∀ g ∈ gs, IsGap g.1 g.2) (hlen : gs.length = ps.length - 1) :
    Munches (alternate (ps.map Prod.snd) (gs.map Prod.fst)).flatten
      (alternate (ps.map fun p => [p]) (gs.map fun g => g.2.map piece)).flatten [] := by
  induction ps generalizing gs with
  | nil =>
    obtain rfl : gs = [] := List.length_eq_zero_iff.mp hlen
    exact .done
  | cons p ps ih =>
    obtain ⟨hp, hk⟩ := (hps p List.mem_cons_self).lexeme
    cases gs with
    | nil =>
      obtain rfl : ps = [] := by
        cases ps with
        | nil => rfl
        | cons q ps => simp at hlen
      simpa [alternate] using munches_lexeme hp
    | cons g gs =>
      obtain ⟨⟨b, y, hb, hby⟩, hgap⟩ := (hgs g List.mem_cons_self).munches
      have hlen' : gs.length = ps.length - 1 := by
        simp only [List.length_cons] at hlen
        omega
      have hrest := ih (fun q hq => hps q (List.mem_cons_of_mem p hq))
        (fun f hf => hgs f (List.mem_cons_of_mem g hf)) hlen'
      have hstep := step_before_blank hp hk hb
        (y ++ (alternate (ps.map Prod.snd) (gs.map Prod.fst)).flatten)
      rw [← List.cons_append, ← hby] at hstep
      simpa [alternate] using Munches.step hstep (munches_trans (hgap _) hrest)

theorem filter_alternate {α : Type} {f : α → Bool} {xs : List α} {ys : List (List α)}
    (hx : ∀ x ∈ xs, f x = true) (hy : ∀ y ∈ ys, ∀ a ∈ y, f a = false) :
    (alternate (xs.map fun x => [x]) ys).flatten.filter f = xs := by
  induction xs generalizing ys with
  | nil =>
    cases ys with
    | nil => rfl
    | cons y ys => simpa [alternate] using hy
  | cons x xs ih =>
    have hxs := fun a ha => hx a (List.mem_cons_of_mem x ha)
    cases ys with
    | nil =>
      have hnil : (alternate (xs.map fun x => [x]) []).flatten.filter f = xs := ih hxs (by simp)
      rw [alternate_nil] at hnil ⊢
      simp [hx, hnil]
    | cons y ys =>
      have hgap : y.filter f = [] := by simpa using hy y List.mem_cons_self
      have hys := ih hxs fun z hz => hy z (List.mem_cons_of_mem y hz)
      simp [alternate, hx, hgap, hys]

theorem filter_place (p q : Position) (ls : List (Kind × List Char)) :
    ((place p ls ++ [Token.endOfInput q]).filter Token.isSignificant).map piece =
      ls.filter isSignificant := by
  have hend : [Token.endOfInput q].filter Token.isSignificant = [] := rfl
  rw [List.filter_append, hend, List.append_nil]
  conv => rhs; rw [← map_piece_place p ls, List.filter_map]
  rfl

theorem Found.isSignificant {p : Kind × List Char} (h : Found p) : isSignificant p = true := by
  obtain ⟨s, ts, t, -, -, hsig, rfl⟩ := h
  exact hsig

theorem IsGap.insignificant {g : List Char} {us : List Token} (h : IsGap g us) :
    ∀ p ∈ us.map piece, Respacing.isSignificant p = false := by
  intro p hp
  obtain ⟨t, ht, rfl⟩ := List.mem_map.mp hp
  have htriv : (piece t).1.isTrivia = true := h.trivia t ht
  simp [Respacing.isSignificant, htriv]

/-- Tokens that are written with gaps between them scan to themselves and to what the gaps scan to.
-/
theorem tokenize_respaced {ps : List (Kind × List Char)} {gs : List (List Char × List Token)}
    (hps : ∀ p ∈ ps, Found p) (hgs : ∀ g ∈ gs, IsGap g.1 g.2) (hlen : gs.length = ps.length - 1) :
    ∃ ts e, tokenize (alternate (ps.map Prod.snd) (gs.map Prod.fst)).flatten = .ok (ts ++ [e]) ∧
      e.kind = .endOfInput ∧ ((ts ++ [e]).filter Token.isSignificant).map piece = ps ∧
      ts.map piece = (alternate (ps.map fun p => [p]) (gs.map fun g => g.2.map piece)).flatten := by
  have hm := munches_alternate hps hgs hlen
  refine ⟨_, _, tokenize_of_munches hm, rfl, ?_, map_piece_place _ _⟩
  rw [filter_place]
  apply filter_alternate
  · intro p hp
    exact (hps p hp).isSignificant
  · intro y hy
    obtain ⟨g, hg, rfl⟩ := List.mem_map.mp hy
    exact (hgs g hg).insignificant

def apart : List (Kind × List Char) :=
  [(.literal .number, ['1']), (.symbol .dot, ['.']), (.literal .number, ['5']),
    (.symbol .slash, ['/']), (.symbol .star, ['*'])]

def apartGaps : List (List Char × List Token) :=
  [([' '], [⟨.trivia .space, [' '], .start⟩]), (['\t'], [⟨.trivia .tab, ['\t'], .start⟩]),
    (['\r', '\n'], [⟨.trivia .newline, ['\r', '\n'], .start⟩]),
    (['\n', '/', '/', '\n'], [⟨.trivia .newline, ['\n'], .start⟩,
      ⟨.trivia .comment, ['/', '/'], ⟨1, 0, 1⟩⟩, ⟨.trivia .newline, ['\n'], ⟨1, 2, 3⟩⟩])]

theorem tokenize_respaced_apart :
    (∀ p ∈ apart, Found p) ∧ (∀ g ∈ apartGaps, IsGap g.1 g.2) ∧
      apartGaps.length = apart.length - 1 ∧
      ∃ ts e, tokenize ['1', ' ', '.', '\t', '5', '\r', '\n', '/', '\n', '/', '/', '\n', '*'] =
          .ok (ts ++ [e]) ∧ e.kind = .endOfInput ∧
        ((ts ++ [e]).filter Token.isSignificant).map piece = apart ∧
        ts.map piece = [(.literal .number, ['1']), (.trivia .space, [' ']), (.symbol .dot, ['.']),
          (.trivia .tab, ['\t']), (.literal .number, ['5']), (.trivia .newline, ['\r', '\n']),
          (.symbol .slash, ['/']), (.trivia .newline, ['\n']), (.trivia .comment, ['/', '/']),
          (.trivia .newline, ['\n']), (.symbol .star, ['*'])] := by
  have hps : ∀ p ∈ apart, Found p := by
    have hrun : (Scan.run .start ['1', '+', '.', '5', '/', '5', '*']).error? = none := by
      decide +kernel
    have hmem : ∀ p ∈ apart, ∃ t ∈ (Scan.run .start ['1', '+', '.', '5', '/', '5', '*']).tokens,
        t.isSignificant = true ∧ p = piece t := by decide +kernel
    intro p hp
    obtain ⟨t, ht, hsig, hpt⟩ := hmem p hp
    exact ⟨_, _, t, by rw [tokenize, hrun], ht, hsig, hpt⟩
  have hgs : ∀ g ∈ apartGaps, IsGap g.1 g.2 := by
    have hrun : ∀ g ∈ apartGaps, Scan.run .start g.1 =
        ⟨g.2 ++ [Token.endOfInput (Position.start.advanceAll g.1)], none⟩ := by decide +kernel
    have htriv : ∀ g ∈ apartGaps, ∀ t ∈ g.2, t.isTrivia = true := by decide
    have hfirst : ∀ g ∈ apartGaps, ∃ t ∈ g.2.head?,
        t.kind = .trivia .newline ∨ t.kind = .trivia .space ∨ t.kind = .trivia .tab := by decide
    have hlast : ∀ g ∈ apartGaps, ∀ t ∈ g.2.getLast?, ¬ ['/', '/'] <+: t.text := by decide
    intro g hg
    refine ⟨⟨Token.endOfInput (Position.start.advanceAll g.1), rfl, ?_⟩, htriv g hg, hfirst g hg,
      hlast g hg⟩
    rw [tokenize, hrun g hg]
  exact ⟨hps, hgs, rfl, tokenize_respaced hps hgs rfl⟩

end XorScan.Respacing
