import Mathlib.Data.List.Forall2
import XorScan.Command
import XorScan.Proofs.Continuation
import XorScan.Proofs.Failures

namespace XorScan.LineEndStyle

open CarriageReturns CommentExtent Continuation Failures LexicalGrammar LiteralUnits LiteralValues
  LongestLexeme MaximalMunch Refusals Tokenization

theorem plain_of_lexeme {k : Kind} {c : Char} {w : List Char} (h : IsLexeme k (c :: w))
    (hn : c ≠ '\n') (hr : c ≠ '\r') (hb : ¬ ['/', '*'] <+: c :: w) (hl : ¬ ['/', '/'] <+: c :: w) :
    Plain (c :: w) := by
  by_cases hk : k.isTrivia = true
  · obtain ⟨hw, -⟩ | hm | hm := trivia_cases h hk
    · simp only [blankTexts, List.mem_cons, List.cons.injEq, List.not_mem_nil, or_false] at hw
      obtain ⟨rfl, -⟩ | ⟨rfl, -⟩ | ⟨rfl, rfl⟩ | ⟨rfl, rfl⟩ := hw
      · exact absurd rfl hn
      · exact absurd rfl hr
      · exact ⟨by decide, by decide⟩
      · exact ⟨by decide, by decide⟩
    · exact absurd hm hl
    · exact absurd hm hb
  · constructor
    · intro hm
      obtain ht | ⟨-, hne⟩ := of_blank_mem h (by decide) hm
      · exact hk ht
      · exact hne rfl
    · intro hlast
      obtain ht | ⟨hq, -⟩ := of_blank_mem h (by decide) (List.mem_of_getLast? hlast)
      · exact hk ht
      · obtain ⟨d, hd⟩ := Option.isSome_iff_exists.mp hq
        obtain ⟨s, vs, hw, -⟩ := body_of_lexeme h hd
        rw [hw, List.getLast?_concat] at hlast
        obtain rfl := Option.some.inj hlast
        cases class_of_quote? hd

theorem endsLine_crlf {t : List Char} (h : EndsLine t) (hcr : '\r' ∉ t) : EndsLine (crlf t) := by
  obtain rfl | ⟨x, rfl | rfl⟩ := h
  · exact .inl rfl
  · exact .inr ⟨crlf x, .inr rfl⟩
  · simp at hcr

theorem mark_of_crlf {d : Char} {s : List Char} (hd : d = '/' ∨ d = '*')
    (h : ['/', d] <+: crlf s) : ['/', d] <+: s := by
  obtain rfl | rfl := hd <;> exact prefix_of_prefix_crlf ⟨by decide, by decide⟩ h

section Front

variable {c : Char} {t w : List Char} {k : Kind} (hn : c ≠ '\n') (hr : c ≠ '\r')
  (hb : ¬ ['/', '*'] <+: c :: t) (hl : ¬ ['/', '/'] <+: c :: t)

include hn hr hb hl

theorem plain_of_front (h : IsLexeme k w) (hp : w <+: c :: t) : Plain w := by
  obtain ⟨d, x, rfl⟩ := List.exists_cons_of_ne_nil h.ne_nil
  obtain ⟨rfl, -⟩ := List.cons_prefix_cons.mp hp
  exact plain_of_lexeme h hn hr (fun hm => hb (hm.trans hp)) (fun hm => hl (hm.trans hp))

theorem front_of_crlf (h : IsLexeme k w) (hp : w <+: crlf (c :: t)) : w <+: c :: t := by
  obtain ⟨d, x, rfl⟩ := List.exists_cons_of_ne_nil h.ne_nil
  have hfront := hp
  rw [crlf_cons hn] at hfront
  obtain ⟨rfl, -⟩ := List.cons_prefix_cons.mp hfront
  refine prefix_of_prefix_crlf (plain_of_lexeme h hn hr ?_ ?_) hp
  · exact fun hm => hb (mark_of_crlf (.inr rfl) (hm.trans hp))
  · exact fun hm => hl (mark_of_crlf (.inl rfl) (hm.trans hp))

theorem longest_crlf (h : Longest (c :: t) k w) : Longest (crlf (c :: t)) k w := by
  refine ⟨h.lexeme, ?_, ?_⟩
  · have hself := crlf_eq_self (plain_of_front hn hr hb hl h.lexeme h.front).lineFeed
    obtain ⟨y, hy⟩ := h.front
    rw [← hy, crlf_append, hself]
    exact List.prefix_append w (crlf y)
  · intro k' w' hw' hp
    exact h.longest k' w' hw' (front_of_crlf hn hr hb hl hw' hp)

end Front

/-- The step on a text without carriage returns is taken in the other style too. -/
theorem step_crlf {w r : List Char} {k : Kind} (h : Step (w ++ r) k w) (hcr : '\r' ∉ w ++ r) :
    Step (crlf w ++ crlf r) k (crlf w) := by
  cases h with
  | @blockComment w hw hr =>
    have hcrlf : crlf ('/' :: '*' :: w) = '/' :: '*' :: crlf w := by
      rw [crlf_cons (by decide), crlf_cons (by decide)]
    rw [hcrlf]
    exact .blockComment (closes_crlf hw) (List.prefix_append _ _)
  | @lineComment w t hr hw =>
    obtain rfl := List.append_cancel_left hr
    have hn := lineFeed_notMem_of_isLine hw
    have hself : crlf ('/' :: '/' :: w) = '/' :: '/' :: w := crlf_eq_self (by simpa using hn)
    rw [hself]
    have ht : '\r' ∉ r := fun hm => hcr (List.mem_append_right _ hm)
    exact .lineComment rfl (isLine_of_notMem hn (endsLine_crlf hw.1 ht) (head?_crlf_ne r))
  | longest hb hl h =>
    obtain ⟨c, x, rfl⟩ := List.exists_cons_of_ne_nil h.lexeme.ne_nil
    by_cases hc : c = '\n'
    · subst hc
      obtain ⟨rfl, ⟨-, rfl⟩ | ⟨hc, -⟩⟩ := h.lexeme.shape
      · exact step_blankText .lineEnd (by decide) _
      · cases hc
    · have hr : c ≠ '\r' := fun hr => hcr (by simp [hr])
      have hself := crlf_eq_self (plain_of_front hc hr hb hl h.lexeme h.front).lineFeed
      rw [← crlf_append, hself]
      exact .longest (mt (mark_of_crlf (.inr rfl)) hb) (mt (mark_of_crlf (.inl rfl)) hl)
        (longest_crlf hc hr hb hl h)

def restyle (ls : List (Kind × List Char)) : List (Kind × List Char) :=
  ls.map fun l => (l.1, crlf l.2)

theorem munches_crlf {s t : List Char} {ls : List (Kind × List Char)} (h : Munches s ls t)
    (hcr : '\r' ∉ s) : Munches (crlf s) (restyle ls) (crlf t) := by
  induction h with
  | done => exact .done
  | @step w r t k ls hs hr ih =>
    rw [crlf_append]
    exact .step (step_crlf hs hcr) (ih fun hm => hcr (List.mem_append_right w hm))

/-- Reading is refused in both styles. Only a backslash at the end of a line is another fault before
a carriage return. -/
theorem refused_crlf {c : Char} {r : List Char} {f : Refusal} (h : Refused c r f)
    (hcr : '\r' ∉ c :: r) : Refused c (crlf r) f ∨
      ∃ s vs t, r = s ++ '\\' :: '\n' :: t ∧ IsBody c s vs ∧ f = ⟨.unterminatedLiteral c, 0⟩ ∧
        Refused c (crlf r) ⟨.invalidEscape (.unknown '\r'), s.length + 1⟩ := by
  cases h with
  | loneReturn => simp at hcr
  | stray h => exact .inl (.stray h)
  | openComment h =>
    rw [crlf_cons (by decide)]
    exact .inl (.openComment (mt infix_crlf_iff.mp h))
  | @openLiteral _ s vs t hc hs ht =>
    rw [crlf_body_append hs]
    cases ht with
    | textEnd => exact .inl (.openLiteral hc hs .textEnd)
    | @lineEnd t =>
      have hreturn : IsUnit c ['\r'] '\r' :=
        .plain (ne_of_class hc (by decide)).symm (by decide) (by decide)
      have hbody := isBody_append hs (.cons hreturn .nil)
      have hr := Refused.openLiteral hc hbody (.lineEnd (t := crlf t))
      rw [List.append_assoc] at hr
      exact .inl hr
    | openEscape ht =>
      -- Behind the backslash the text ends, or there is a line feed, which gets its carriage return.
      obtain rfl | ⟨x, rfl⟩ := ht
      · exact .inl (.openLiteral hc hs (.openEscape (.inl rfl)))
      · exact .inr ⟨s, vs, x, rfl, hs, rfl, .badEscape hc hs (.badEscape (by simp) rfl)⟩
  | @badEscape _ s vs t e hc hs ht =>
    rw [crlf_body_append hs]
    obtain _ | _ | _ | _ | ⟨hne, he⟩ := ht
    rename_i t
    cases t with
    | nil => exact absurd (.inl rfl) hne
    | cons a t =>
      have ha : a ≠ '\n' := by simpa using hne
      have hdec := decode_crlf (s := a :: t) (by simpa using ha)
      rw [he, crlf_cons ha] at hdec
      rw [crlf_cons (by decide), crlf_cons ha]
      exact .inl (.badEscape hc hs (.badEscape (by simpa using ha) hdec))
  | @badCharacter s vs t hs ht hlen =>
    rw [crlf_body_append hs]
    cases ht with
    | quote =>
      rw [crlf_cons (by decide)]
      exact .inl (.badCharacter hs .quote hlen)

/-- Two tokens that differ only in the style of the line ends in them and before them. -/
structure Restyled (t t' : Token) : Prop where
  kind : t'.kind = t.kind
  text : t'.text = crlf t.text
  line : t'.position.line = t.position.line
  column : t'.position.column = t.position.column
  value : t'.literalValue = t.literalValue

theorem literalValue_crlf {k : Kind} {w : List Char} (h : IsLexeme k w) (p q : Position) :
    Token.literalValue ⟨k, crlf w, q⟩ = Token.literalValue ⟨k, w, p⟩ := by
  cases hk : quote? k with
  | none => rw [literalValue_of_quote?_eq_none hk, literalValue_of_quote?_eq_none hk]
  | some d =>
    obtain ⟨s, vs, rfl, hs, -⟩ := body_of_lexeme h hk
    have hd : '\n' ≠ d := (quote?_ne hk).2.symm
    have hs : '\n' ∉ d :: s ++ [d] := by simpa [hd] using lineFeed_notMem_of_isBody hs
    rw [crlf_eq_self hs]
    rfl

theorem restyled_place {ls : List (Kind × List Char)} (h : ∀ l ∈ ls, IsLexeme l.1 l.2)
    {p q : Position} (hpq : q.line = p.line ∧ q.column = p.column) :
    List.Forall₂ Restyled (place p ls) (place q (restyle ls)) := by
  induction ls generalizing p q with
  | nil => exact .nil
  | cons l ls ih =>
    refine .cons ⟨rfl, rfl, hpq.1, hpq.2, ?_⟩ (ih ?_ (line_column_crlf hpq l.2))
    · exact literalValue_crlf (h l List.mem_cons_self) p q
    · exact fun m hm => h m (List.mem_cons_of_mem l hm)

theorem countP_of_restyled {ts ts' : List Token} (h : List.Forall₂ Restyled ts ts') :
    ts'.countP Token.isSignificant = ts.countP Token.isSignificant := by
  induction h with
  | nil => rfl
  | @cons t t' ts ts' ht hts ih =>
    have hs : t'.isSignificant = t.isSignificant := by
      simp only [Token.isSignificant, Token.isTrivia, Token.isEndOfInput, ht.kind]
    rw [List.countP_cons, List.countP_cons, ih, hs]

theorem tokenize_crlf_error {s r : List Char} {ls : List (Kind × List Char)} {c : Char} {f : Refusal}
    (hm : Munches s ls (c :: r)) (hcr : '\r' ∉ s) (hc : c ≠ '\n') (hf : Refused c (crlf r) f) :
    tokenize (crlf s) =
      .error (errorAt (Position.start.advanceAll (crlf (spelled ls))) c (crlf r) f) := by
  have hm' := munches_crlf hm hcr
  have hspelled : spelled (restyle ls) = crlf (spelled ls) := by
    have hs := hm'.eq_append
    rw [hm.eq_append, crlf_append] at hs
    exact (List.append_cancel_right hs).symm
  rw [crlf_cons hc] at hm'
  have hrun := run_of_munches hm' .start
  rw [run_refused (front_of_refused hf), hspelled] at hrun
  exact tokenize_of_error (congrArg Scan.error? hrun)

theorem exists_error_crlf {s : List Char} {e : ScanError} (h : tokenize s = .error e)
    (hcr : '\r' ∉ s) : ∃ e', tokenize (crlf s) = .error e' := by
  obtain ⟨ls, c, r, f, hm, hf, -, -⟩ := exists_refused h
  have hr : '\r' ∉ c :: r := fun hx => hcr (hm.eq_append ▸ List.mem_append_right _ hx)
  obtain ⟨f', hf'⟩ : ∃ f', Refused c (crlf r) f' := by
    obtain hf' | ⟨s, vs, t, -, -, -, hf'⟩ := refused_crlf hf hr
    · exact ⟨f, hf'⟩
    · exact ⟨_, hf'⟩
  exact ⟨_, tokenize_crlf_error hm hcr hf.ne_lineFeed hf'⟩

/-- A source and the same source with carriage returns at its line ends both scan or both fail. If
they scan, their tokens correspond one to one, and what they count and mean is the same. -/
theorem tokenize_crlf {s : List Char} (hcr : '\r' ∉ s) :
    ((∃ ts, tokenize s = .ok ts) ↔ ∃ ts, tokenize (crlf s) = .ok ts) ∧
    ∀ ts ts', tokenize s = .ok ts → tokenize (crlf s) = .ok ts' →
      List.Forall₂ Restyled ts ts' ∧ Summary.ofTokens ts' = Summary.ofTokens ts := by
  have hok : ∀ {ts}, tokenize s = .ok ts → ∃ ts', tokenize (crlf s) = .ok ts' ∧
      List.Forall₂ Restyled ts ts' := by
    intro ts h
    obtain ⟨ls, hm, rfl⟩ := munches_of_tokenize h
    have hp := line_column_crlf (p := .start) (q := .start) ⟨rfl, rfl⟩ s
    refine ⟨_, tokenize_of_munches (munches_crlf hm hcr), ?_⟩
    refine List.rel_append (restyled_place hm.isLexeme_of_mem ⟨rfl, rfl⟩) (.cons ?_ .nil)
    exact ⟨rfl, rfl, hp.1, hp.2, rfl⟩
  refine ⟨⟨?_, ?_⟩, ?_⟩
  · rintro ⟨ts, h⟩
    obtain ⟨ts', h', -⟩ := hok h
    exact ⟨ts', h'⟩
  · rintro ⟨ts', h'⟩
    cases h : tokenize s with
    | ok ts => exact ⟨ts, rfl⟩
    | error e =>
      obtain ⟨e', he⟩ := exists_error_crlf h hcr
      cases he.symm.trans h'
  · intro ts ts' h h'
    obtain ⟨us, hus, hts⟩ := hok h
    obtain rfl := Except.ok.inj (hus.symm.trans h')
    refine ⟨hts, ?_⟩
    rw [Summary.ofTokens, Summary.ofTokens, countP_of_restyled hts, hts.length_eq]

def commented : List Char := ['/', '*', '\n', '*', '/', '"', 'a', '"', '/', '/', '\n']

theorem tokenize_crlf_commented :
    '\r' ∉ commented ∧ ∃ ts ts', tokenize commented = .ok ts ∧ tokenize (crlf commented) = .ok ts' ∧
      List.Forall₂ Restyled ts ts' ∧ Summary.ofTokens ts = ⟨5, 1⟩ ∧
      Summary.ofTokens ts' = ⟨5, 1⟩ := by
  have hcr : '\r' ∉ commented := by decide
  have hrun : (Scan.run .start commented).error? = none := by decide +kernel
  have hcount : Summary.ofTokens (Scan.run .start commented).tokens = ⟨5, 1⟩ := by decide +kernel
  have h : tokenize commented = .ok (Scan.run .start commented).tokens := by rw [tokenize, hrun]
  obtain ⟨ts', h'⟩ := (tokenize_crlf hcr).1.mp ⟨_, h⟩
  obtain ⟨hts, hsum⟩ := (tokenize_crlf hcr).2 _ _ h h'
  exact ⟨hcr, _, ts', h, h', hts, hcount, hsum.trans hcount⟩

end XorScan.LineEndStyle
