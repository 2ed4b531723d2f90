import XorScan.Proofs.Continuation
import XorScan.Proofs.Failures

namespace XorScan.Remedies

open CommentExtent Continuation Failures LexicalGrammar LiteralUnits LongestLexeme MaximalMunch
  Refusals ScannerRun Tokenization

/-- The characters that follow the first one of a token only in comments and in quotes. -/
def marks : List Char := ['/', '"', '\'']

theorem of_mem_marks {m : Char} (hm : m ∈ marks) : CharClass.isIdentContinue m = false ∧
    m.isDigit = false ∧ m ≠ '.' ∧ m ≠ '\n' ∧ m ≠ '\r' := by
  have hall : marks.all fun m => CharClass.isIdentContinue m = false ∧ m.isDigit = false ∧
      m ≠ '.' ∧ m ≠ '\n' ∧ m ≠ '\r' := by decide
  exact of_decide_eq_true (List.all_eq_true.mp hall m hm)

theorem mark_notMem_spelling {y : Symbol} {c m : Char} {w : List Char} (h : y.spelling = c :: w)
    (hm : m ∈ marks) : m ∉ w := by
  have hall : marks.all fun m => m ∉ y.spelling.tail := by cases y <;> decide
  have hy := of_decide_eq_true (List.all_eq_true.mp hall m hm)
  rwa [h] at hy

theorem of_mark_mem {k : Kind} {c m : Char} {w : List Char} (h : IsLexeme k (c :: w))
    (hm : m ∈ marks) (hw : m ∈ w) : k = .trivia .comment ∨ CharClass.of c = .quote := by
  obtain ⟨hword, hdigit, hpoint, hline, -⟩ := of_mem_marks hm
  have hs := h.shape
  cases hc : CharClass.of c with
  | quote => exact .inr rfl
  | newline =>
    rw [hc] at hs
    obtain ⟨-, ⟨-, rfl⟩ | ⟨-, rfl⟩⟩ := hs
    · cases hw
    · exact absurd (List.mem_singleton.mp hw) hline
  | space | tab =>
    rw [hc] at hs
    obtain ⟨-, rfl⟩ := hs
    cases hw
  | slash =>
    rw [hc] at hs
    obtain ⟨hk, -⟩ | ⟨y, -, hy⟩ := hs
    · exact .inl hk
    · exact absurd hw (mark_notMem_spelling hy hm)
  | symbol =>
    rw [hc] at hs
    obtain ⟨y, -, hy⟩ := hs
    exact absurd hw (mark_notMem_spelling hy hm)
  | identStart =>
    rw [hc] at hs
    exact absurd hw (notMem_of_all hs.2 hword)
  | digit =>
    rw [hc] at hs
    obtain ⟨-, hd⟩ | ⟨-, a, d, f, rfl, ha, hf⟩ := hs
    · exact absurd hw (notMem_of_all hd hdigit)
    · obtain hw | hw := List.mem_append.mp hw
      · exact absurd hw (notMem_of_all ha hdigit)
      · obtain hw | hw := List.mem_cons.mp hw
        · exact absurd hw hpoint
        · exact absurd hw (notMem_of_all hf hdigit)
  | other =>
    rw [hc] at hs
    exact hs.elim

theorem step_mark_append {k : Kind} {w y : List Char} {m : Char}
    (h : Step (w ++ (y ++ [m])) k w) (hm : m ∈ marks) (t : List Char) :
    Step (w ++ (y ++ [m] ++ t)) k w := by
  have hwy : w ++ (y ++ [m]) <+: w ++ (y ++ [m] ++ t) :=
    (List.prefix_append_right_inj w).mpr (List.prefix_append _ t)
  have hlen : 2 ≤ (w ++ (y ++ [m])).length := by
    have hw := List.length_pos_of_ne_nil h.lexeme.ne_nil
    simp only [List.length_append, List.length_singleton]
    omega
  cases h with
  | blockComment hw hr => exact .blockComment hw (List.prefix_append _ _)
  | lineComment hr hw =>
    obtain rfl := List.append_cancel_left hr
    exact .lineComment rfl (isLine_append hw (by simp) t)
  | longest hb hl h =>
    refine .longest (fun hp => hb (List.prefix_of_prefix_length_le hp hwy hlen))
      (fun hp => hl (List.prefix_of_prefix_length_le hp hwy hlen))
      ⟨h.lexeme, List.prefix_append _ _, ?_⟩
    intro k' v h' hp
    obtain hv | hv := List.prefix_or_prefix_of_prefix hp hwy
    · exact h.longest k' v h' hv
    · obtain ⟨c, w, rfl⟩ := List.exists_cons_of_ne_nil h.lexeme.ne_nil
      obtain ⟨d, v, rfl⟩ := List.exists_cons_of_ne_nil h'.ne_nil
      obtain ⟨rfl, hwv⟩ := List.cons_prefix_cons.mp hv
      obtain hk | hc := of_mark_mem h' hm (hwv.subset (by simp))
      · -- A comment begins with two characters that stand before or on the mark.
        obtain ⟨-, hk'⟩ | hp' | hp' := trivia_cases h' (by rw [hk]; rfl)
        · exact absurd hk hk'
        · exact absurd (List.prefix_of_prefix_length_le hp' hv hlen) hl
        · exact absurd (List.prefix_of_prefix_length_le hp' hv hlen) hb
      · have hle := literal_length_le h.lexeme h' hc (List.prefix_append w _)
          (List.cons_prefix_cons.mp hp).2
        simpa using hle

theorem step_before_mark {k : Kind} {w y z : List Char} {m : Char}
    (h : Step (w ++ (y ++ m :: z)) k w) (hm : m ∈ marks) (t : List Char) :
    Step (w ++ (y ++ m :: t)) k w := by
  have hne : y ++ [m] ≠ ['\r'] := by
    obtain ⟨-, -, -, -, hcr⟩ := of_mem_marks hm
    intro he
    obtain ⟨-, hmr⟩ | ⟨-, hmr⟩ := List.append_eq_singleton_iff.mp he
    · exact hcr (List.cons.inj hmr).1
    · cases hmr
  have hcut := Cutting.step_cut h (x := y ++ [m]) ⟨z, by simp⟩ hne
  simpa using step_mark_append hcut hm t

/-- Steps up to a mark are the same whatever stands behind the mark. -/
theorem munches_before_mark {s z : List Char} {ls : List (Kind × List Char)} {m : Char}
    (h : Munches s ls (m :: z)) (hm : m ∈ marks) (t : List Char) :
    Munches (spelled ls ++ m :: t) ls (m :: t) := by
  generalize hu : m :: z = u at h
  induction h with
  | done => exact .done
  | @step w r u k ls hs hr ih =>
    subst hu
    rw [hr.eq_append] at hs
    have hstep := step_before_mark hs hm t
    have happ : spelled ((k, w) :: ls) ++ m :: t = w ++ (spelled ls ++ m :: t) := by
      simp [spelled]
    rw [happ]
    exact .step hstep (ih rfl)

/-- A comment that nothing closes is closed by what is put behind it, and nowhere earlier. -/
theorem closes_append {b : List Char} (h : ¬ ['*', '/'] <:+: b) : Closes (b ++ ['*', '/']) := by
  have hlast : (b ++ ['*', '/']).dropLast = b ++ ['*'] := by
    rw [List.dropLast_append_of_ne_nil (by simp)]
    rfl
  refine ⟨List.suffix_append b _, ?_⟩
  rw [hlast, List.infix_concat_iff]
  rintro (⟨x, hx⟩ | hb)
  · have hend := congrArg List.getLast? hx
    simp at hend
  · exact h hb

theorem munches_closed {s b : List Char} {ls : List (Kind × List Char)}
    (h : Munches s ls ('/' :: '*' :: b)) (hb : ¬ ['*', '/'] <:+: b) :
    Munches (s ++ ['*', '/'])
      (ls ++ [(.trivia .comment, '/' :: '*' :: b ++ ['*', '/'])]) [] := by
  have hw : IsLexeme (.trivia .comment) ('/' :: '*' :: b ++ ['*', '/']) :=
    .blockComment (closes_append hb)
  have hm := munches_before_mark h (by decide) ('*' :: b ++ ['*', '/'])
  have hs : s ++ ['*', '/'] = spelled ls ++ '/' :: ('*' :: b ++ ['*', '/']) := by
    rw [h.eq_append]
    simp
  rw [hs]
  refine munches_snoc ?_ ?_
  · rw [List.append_nil]
    exact hm
  · rw [List.append_nil]
    exact step_self hw

/-- The source is cut before the opening quote `d` at `p`, and where the line of that quote ends. -/
structure CutAtLiteral (s : List Char) (p : Position) (d : Char) (a body tail : List Char) :
    Prop where
  split : s = a ++ d :: (body ++ tail)
  place : p = Position.start.advanceAll a
  within : '\n' ∉ body
  stop : tail = [] ∨ ∃ x, tail = '\n' :: x

theorem CutAtLiteral.isRun {s : List Char} {p : Position} {d : Char} {a body tail : List Char}
    (h : CutAtLiteral s p d a body tail) : CharRun.IsRun (· ≠ '\n') body tail := by
  refine ⟨fun c hc => ?_, fun c hc => ?_⟩
  · have hne : c ≠ '\n' := fun he => h.within (he ▸ hc)
    simpa using hne
  · obtain rfl | ⟨x, rfl⟩ := h.stop
    · cases hc
    · cases hc
      rfl

/-- A body ends with a backslash that no escape before it takes. -/
def EndsOpen (d : Char) (body : List Char) : Prop := ∃ u vs, IsBody d u vs ∧ body = u ++ ['\\']

/-- A new scanner of `s` hands out `ts` and comes to `p`, and `a` is what it gives next. -/
def GivesAt (s : List Char) (ts : List Token) (p : Position) (a : Except ScanError Token) : Prop :=
  ∃ sc, Yields s ts sc ∧ sc.position = p ∧ sc.next.1 = a

theorem givesAt_of_munches {s r : List Char} {ls : List (Kind × List Char)} {c : Char}
    (h : Munches s ls (c :: r)) : GivesAt s (place .start ls)
      (Position.start.advanceAll (spelled ls))
      (Token.front (Position.start.advanceAll (spelled ls)) c r) := by
  refine ⟨_, yields_of_munches h .start, rfl, ?_⟩
  simp only [Scanner.next]
  cases Token.front (Position.start.advanceAll (spelled ls)) c r <;> rfl

/-- What a literal with the quote and the body gives at `p` once it is closed behind the body, which
holds `n` units. -/
inductive Closing (p : Position) (body : List Char) (n : Nat) :
    Char → Except ScanError Token → Prop
  | string : Closing p body n '"' (.ok ⟨.literal .string, '"' :: body ++ ['"'], p⟩)
  | character (h : n = 1) :
      Closing p body n '\'' (.ok ⟨.literal .character, '\'' :: body ++ ['\''], p⟩)
  | badCharacter (h : n ≠ 1) : Closing p body n '\'' (.error ⟨.invalidCharLiteral, p⟩)

variable {d : Char}

theorem closing_front {body vs : List Char} (hd : CharClass.of d = .quote) (hb : IsBody d body vs)
    (p : Position) (tail : List Char) :
    Closing p body vs.length d (Token.front p d (body ++ d :: tail)) := by
  obtain ⟨hs, hn⟩ := quote_ne hd
  have htake : (body ++ d :: tail).take (body.length + 1) = body ++ [d] := by
    rw [List.take_append, List.take_of_length_le (Nat.le_succ _)]
    simp
  rw [Token.front, front_of_quote hd, Lexeme.quoted, read_body hs hn hb .quote]
  obtain rfl | rfl := CharClass.of_eq_quote_iff.mp hd
  · simp only [if_pos, htake]
    exact .string
  · have hq : '\'' ≠ '"' := by decide
    by_cases hlen : vs.length = 1
    · simp only [if_neg hq, if_pos hlen, htake]
      exact .character hlen
    · simp only [if_neg hq, if_neg hlen]
      exact .badCharacter hlen

theorem letter?_quote (hd : CharClass.of d = .quote) : Escape.letter? d = some d := by
  obtain rfl | rfl := CharClass.of_eq_quote_iff.mp hd <;> rfl

theorem isBody_of_endsOpen {body : List Char} (hd : CharClass.of d = .quote)
    (h : EndsOpen d body) : ∃ vs, IsBody d (body ++ [d]) vs := by
  obtain ⟨u, vs, hu, rfl⟩ := h
  have he : IsUnit d ['\\', d] d := .escape (EscapeGrammar.isEscape_iff.mp (.letter (letter?_quote hd)))
  have hb := isBody_append hu (.cons he .nil)
  exact ⟨_, by simpa using hb⟩

/-- A literal that is cut off holds units up to the end of its line, but for a backslash there. -/
theorem exists_cut_line {s vs t : List Char} (hs : IsBody d s vs) (ht : Halts d t .cutOff) :
    ∃ body tail, s ++ t = body ++ tail ∧ '\n' ∉ body ∧ (tail = [] ∨ ∃ x, tail = '\n' :: x) ∧
      (IsBody d body vs ∨ EndsOpen d body) := by
  have hline := CarriageReturns.lineFeed_notMem_of_isBody hs
  cases ht with
  | textEnd => exact ⟨s, [], rfl, hline, .inl rfl, .inl hs⟩
  | @lineEnd x => exact ⟨s, '\n' :: x, rfl, hline, .inr ⟨x, rfl⟩, .inl hs⟩
  | @openEscape t h => exact ⟨s ++ ['\\'], t, by simp, by simp [hline], h, .inr ⟨s, vs, hs, rfl⟩⟩

theorem halts_lineEnd {t : List Char} (h : t = [] ∨ ∃ x, t = '\n' :: x) : Halts d t .cutOff := by
  obtain rfl | ⟨x, rfl⟩ := h
  · exact .textEnd
  · exact .lineEnd

/-- The help of a fault names the text `e`, between backticks, and no other. -/
def Advises (f : Fault) (e : List Char) : Prop :=
  ∃ u v, f.help? = some (String.ofList (u ++ '`' :: (e ++ '`' :: v))) ∧ '`' ∉ u ++ e ++ v

theorem advises_comment : Advises .unterminatedComment ['*', '/'] :=
  ⟨"add ".toList, " to close the comment".toList, rfl, by decide⟩

theorem advises_literal (hd : CharClass.of d = .quote) : Advises (.unterminatedLiteral d) [d] := by
  obtain rfl | rfl := CharClass.of_eq_quote_iff.mp hd
  · exact ⟨"close the literal with ".toList, " before the end of the line".toList, rfl, by decide⟩
  · exact ⟨"close the literal with ".toList, " before the end of the line".toList, rfl, by decide⟩

theorem comment_closed {s : List Char} {p : Position}
    (h : tokenize s = .error ⟨.unterminatedComment, p⟩) :
    ∃ ts a b, Scan.run .start s = ⟨ts, some ⟨.unterminatedComment, p⟩⟩ ∧ s = a ++ b ∧
      p = Position.start.advanceAll a ∧
      tokenize (s ++ ['*', '/']) = .ok (ts ++ [⟨.trivia .comment, b ++ ['*', '/'], p⟩,
        Token.endOfInput (Position.start.advanceAll (s ++ ['*', '/']))]) := by
  obtain ⟨ls, c, r, f, hm, hf, he, hrun⟩ := exists_refused h
  cases hf with
  | @openComment b hb =>
    have hp : p = Position.start.advanceAll (spelled ls) := congrArg ScanError.position he
    refine ⟨_, spelled ls, '/' :: '*' :: b, hrun, hm.eq_append, hp, ?_⟩
    rw [tokenize_of_munches (munches_closed hm hb), place_snoc, ← hp]
    simp
  | _ => cases he

theorem literal_closed {s : List Char} {p : Position}
    (h : tokenize s = .error ⟨.unterminatedLiteral d, p⟩) : Advises (.unterminatedLiteral d) [d] ∧
    ∃ ts a body tail, Scan.run .start s = ⟨ts, some ⟨.unterminatedLiteral d, p⟩⟩ ∧
      CutAtLiteral s p d a body tail ∧
      (¬ EndsOpen d body → ∃ vs r, IsBody d body vs ∧ Closing p body vs.length d r ∧
        GivesAt (a ++ d :: (body ++ d :: tail)) ts p r) ∧
      (EndsOpen d body → GivesAt (a ++ d :: (body ++ d :: tail)) ts p
        (.error ⟨.unterminatedLiteral d, p⟩)) := by
  obtain ⟨ls, c, r, f, hm, hf, he, hrun⟩ := exists_refused h
  cases hf with
  | @openLiteral c u vs t hc hu ht =>
    have hp : p = Position.start.advanceAll (spelled ls) := congrArg ScanError.position he
    obtain rfl : d = c := Fault.unterminatedLiteral.inj (congrArg ScanError.fault he)
    have hd : d ∈ marks := by
      obtain rfl | rfl := CharClass.of_eq_quote_iff.mp hc <;> decide
    obtain ⟨body, tail, hr, hn, hstop, hbody⟩ := exists_cut_line hu ht
    have hgives := givesAt_of_munches (munches_before_mark hm hd (body ++ d :: tail))
    rw [← hp] at hgives
    refine ⟨advises_literal hc, _, spelled ls, body, tail, hrun, ⟨?_, hp, hn, hstop⟩, ?_, ?_⟩
    · rw [← hr]
      exact hm.eq_append
    · intro ho
      have hb := hbody.resolve_right ho
      exact ⟨vs, _, hb, closing_front hc hb p tail, hgives⟩
    · intro ho
      obtain ⟨ws, hw⟩ := isBody_of_endsOpen hc ho
      have hopen : Refused d (body ++ d :: tail) ⟨.unterminatedLiteral d, 0⟩ := by
        simpa using Refused.openLiteral hc hw (halts_lineEnd hstop)
      rw [Token.front, front_of_refused hopen] at hgives
      exact hgives
  | _ => cases he

/-- Doing what the help of an error says repairs that error, and changes no token before it. A literal
that was cut off is a token then, or found to hold more or less than one character. -/
theorem help_repairs (s : List Char) :
    (∀ p, tokenize s = .error ⟨.unterminatedComment, p⟩ →
      Advises .unterminatedComment ['*', '/'] ∧
      ∃ ts a b, Scan.run .start s = ⟨ts, some ⟨.unterminatedComment, p⟩⟩ ∧ s = a ++ b ∧
        p = Position.start.advanceAll a ∧
        tokenize (s ++ ['*', '/']) = .ok (ts ++ [⟨.trivia .comment, b ++ ['*', '/'], p⟩,
          Token.endOfInput (Position.start.advanceAll (s ++ ['*', '/']))])) ∧
    ∀ d p, tokenize s = .error ⟨.unterminatedLiteral d, p⟩ →
      Advises (.unterminatedLiteral d) [d] ∧
      ∃ ts a body tail, Scan.run .start s = ⟨ts, some ⟨.unterminatedLiteral d, p⟩⟩ ∧
        CutAtLiteral s p d a body tail ∧
        (¬ EndsOpen d body → ∃ vs r, IsBody d body vs ∧ Closing p body vs.length d r ∧
          GivesAt (a ++ d :: (body ++ d :: tail)) ts p r) ∧
        (EndsOpen d body → GivesAt (a ++ d :: (body ++ d :: tail)) ts p
          (.error ⟨.unterminatedLiteral d, p⟩)) :=
  ⟨fun _ h => ⟨advises_comment, comment_closed h⟩, fun _ _ h => literal_closed h⟩

theorem help_repairs_overlapping :
    tokenize ['a', '/', '*', '/'] = .error ⟨.unterminatedComment, ⟨0, 1, 1⟩⟩ ∧
      (∃ ts b, tokenize ['a', '/', '*', '/', '*', '/'] =
        .ok (ts ++ [⟨.trivia .comment, b ++ ['*', '/'], ⟨0, 1, 1⟩⟩,
          Token.endOfInput ⟨0, 6, 6⟩])) ∧
    tokenize ['\'', '\\', '\\', '\n'] = .error ⟨.unterminatedLiteral '\'', .start⟩ ∧
      GivesAt ['\'', '\\', '\\', '\'', '\n'] [] .start
        (.ok ⟨.literal .character, ['\'', '\\', '\\', '\''], .start⟩) := by
  have hc : tokenize ['a', '/', '*', '/'] = .error ⟨.unterminatedComment, ⟨0, 1, 1⟩⟩ :=
    tokenize_of_error (by decide +kernel)
  have hrun : Scan.run .start ['\'', '\\', '\\', '\n'] =
      ⟨[], some ⟨.unterminatedLiteral '\'', .start⟩⟩ := by decide +kernel
  have hl := tokenize_of_error (congrArg Scan.error? hrun)
  obtain ⟨-, ts, -, b, -, -, -, hok⟩ := (help_repairs _).1 _ hc
  obtain ⟨-, us, a, body, tail, hus, hcut, hclosed, -⟩ := (help_repairs _).2 _ _ hl
  refine ⟨hc, ⟨ts, b, hok⟩, hl, ?_⟩
  obtain rfl : [] = us := congrArg Scan.tokens (hrun.symm.trans hus)
  have ha : a = [] := by
    have ho := congrArg Position.offset hcut.place
    rw [Position.offset_advanceAll] at ho
    exact Text.byteLength_eq_zero_iff.mp (by simpa [Position.start] using ho.symm)
  have hline : CharRun.IsRun (· ≠ '\n') ['\\', '\\'] ['\n'] := ⟨by simp, by simp⟩
  have hsplit := hcut.split
  rw [ha] at hsplit hclosed
  obtain ⟨rfl, rfl⟩ := hline.unique hcut.isRun (List.cons.inj hsplit).2
  have hopen : ¬ EndsOpen '\'' ['\\', '\\'] := by
    rintro ⟨u, ws, hu, he⟩
    have hback : ['\\'] ++ ['\\'] = u ++ ['\\'] := he
    obtain rfl := List.append_cancel_right hback
    have hw := LiteralValues.unescape_of_body hu
    simp [Escape.unescape, Escape.decode] at hw
  obtain ⟨vs, r, hvs, hclose, hgives⟩ := hclosed hopen
  have hw := LiteralValues.unescape_of_body hvs
  cases hclose with
  | character => exact hgives
  | badCharacter hlen =>
    have hpair : Escape.unescape ['\\', '\\'] = .ok ['\\'] := by
      simp [Escape.unescape, Escape.decode, Escape.letter?, Except.map]
    obtain rfl := Except.ok.inj (hpair.symm.trans hw)
    exact absurd rfl hlen

end XorScan.Remedies
