import XorScan.Proofs.Refusals
import XorScan.Proofs.ScannerRun

namespace XorScan.Failures

open LiteralUnits Refusals ScannerRun Tokenization

def BeginsToken (c : Char) : Prop :=
  (c = '\n' ∨ c = '\r') ∨ c = ' ' ∨ c = '\t' ∨ c = '/' ∨
    (∃ y : Symbol, y.spelling.head? = some c) ∨ (c.isAlpha ∨ c = '_') ∨ c.isDigit ∨
    c = '"' ∨ c = '\''

/-- Reading units behind the quote `c` as far as possible takes `n` of them, written `s`, and stops
before `t`. -/
structure StopsAt (c : Char) (r s : List Char) (n : Nat) (t : List Char) : Prop where
  split : r = s ++ t
  units : ∃ vs, IsBody c s vs ∧ vs.length = n
  stuck : ∀ u v, IsUnit c u v → ¬ u <+: t

/-- The fault that the place where reading stops makes of a literal with the quote `c` at `p`. -/
inductive LiteralFault (p : Position) (c : Char) (s : List Char) (n : Nat) :
    List Char → ScanError → Prop
  | lineFeed {t : List Char} : LiteralFault p c s n ('\n' :: t) ⟨.unterminatedLiteral c, p⟩
  | textEnd : LiteralFault p c s n [] ⟨.unterminatedLiteral c, p⟩
  | backslashLineFeed {t : List Char} :
      LiteralFault p c s n ('\\' :: '\n' :: t) ⟨.unterminatedLiteral c, p⟩
  | backslashTextEnd : LiteralFault p c s n ['\\'] ⟨.unterminatedLiteral c, p⟩
  | backslash {t : List Char} {reason : EscapeError} (hne : t ≠ []) (hlf : t.head? ≠ some '\n')
      (h : Escape.decode t = .error reason) :
      LiteralFault p c s n ('\\' :: t) ⟨.invalidEscape reason, p.advanceAll (c :: s)⟩
  | quote {t : List Char} (hc : c = '\'') (hn : n ≠ 1) :
      LiteralFault p c s n (c :: t) ⟨.invalidCharLiteral, p⟩

/-- The error `e` of a scan that stops at `p` before `c :: r`. -/
structure Diagnosed (p : Position) (c : Char) (r : List Char) (e : ScanError) : Prop where
  unexpected : ∀ ch, e = ⟨.unexpectedCharacter ch, p⟩ ↔
    ch = c ∧ (c = '\r' ∧ r.head? ≠ some '\n' ∨ ¬ BeginsToken c)
  comment : e = ⟨.unterminatedComment, p⟩ ↔ ∃ b, c :: r = '/' :: '*' :: b ∧ ¬ ['*', '/'] <:+: b
  literal : c = '"' ∨ c = '\'' → ∃ s n t, StopsAt c r s n t ∧ LiteralFault p c s n t e
  exhaustive : (∃ ch, e = ⟨.unexpectedCharacter ch, p⟩) ∨ e = ⟨.unterminatedComment, p⟩ ∨
    c = '"' ∨ c = '\''

variable {p : Position} {c : Char} {r : List Char} {f : Refusal}

theorem head?_spelling_iff :
    (∃ y : Symbol, y.spelling.head? = some c) ↔
      CharClass.of c = .symbol ∨ CharClass.of c = .slash := by
  constructor
  · rintro ⟨y, hy⟩
    obtain ⟨w, hw⟩ := List.head?_eq_some_iff.mp hy
    exact SymbolTable.class_of_spelling hw
  · intro h
    obtain ⟨y, hy⟩ := SymbolTable.exists_spelling_of_class h
    exact ⟨y, by rw [hy]; rfl⟩

theorem not_beginsToken_iff : ¬ BeginsToken c ↔ CharClass.of c = .other := by
  have hword : (c.isAlpha ∨ c = '_') ↔ CharClass.of c = .identStart := by
    simp [CharClass.of_eq_identStart_iff, CharClass.isIdentStart]
  unfold BeginsToken
  rw [head?_spelling_iff, hword, ← CharClass.of_eq_newline_iff, ← CharClass.of_eq_space_iff,
    ← CharClass.of_eq_tab_iff, ← CharClass.of_eq_slash_iff, ← CharClass.of_eq_quote_iff,
    ← CharClass.of_eq_digit_iff]
  cases CharClass.of c <;> simp

theorem ne_of_class {x : Char} {k : CharClass} (h : CharClass.of c = k) (hx : CharClass.of x ≠ k) :
    c ≠ x := by
  rintro rfl
  exact hx h

def errorAt (p : Position) (c : Char) (r : List Char) (f : Refusal) : ScanError :=
  ⟨f.fault, p.advanceAll ((c :: r).take f.distance)⟩

/-- A source that does not scan is refused behind the steps that can be taken. -/
theorem exists_refused {s : List Char} {e : ScanError} (h : tokenize s = .error e) :
    ∃ ls c r f, Munches s ls (c :: r) ∧ Refused c r f ∧
      e = errorAt (Position.start.advanceAll (spelled ls)) c r f ∧
      Scan.run .start s = ⟨place .start ls, some e⟩ := by
  obtain ⟨ls, hm⟩ | ⟨ls, c, r, f, hm, hf, hrun⟩ := run_cases s
  · rw [tokenize_of_munches hm] at h
    cases h
  · rw [tokenize_of_error (by rw [hrun])] at h
    cases h
    exact ⟨ls, c, r, f, hm, refused_of_front hf, rfl, hrun⟩

theorem unexpected_iff (h : Refused c r f) (ch : Char) :
    errorAt p c r f = ⟨.unexpectedCharacter ch, p⟩ ↔
      ch = c ∧ (c = '\r' ∧ r.head? ≠ some '\n' ∨ ¬ BeginsToken c) := by
  rw [not_beginsToken_iff]
  cases h with
  | loneReturn h | stray h => simp [errorAt, h, eq_comm]
  | openComment | badCharacter => simp +decide [errorAt]
  | openLiteral hc | badEscape hc =>
    have hcr : c ≠ '\r' := ne_of_class hc (by decide)
    simp [errorAt, hc, hcr]

theorem comment_iff (h : Refused c r f) :
    errorAt p c r f = ⟨.unterminatedComment, p⟩ ↔
      ∃ b, c :: r = '/' :: '*' :: b ∧ ¬ ['*', '/'] <:+: b := by
  cases h with
  | loneReturn | badCharacter => simp [errorAt]
  | openComment h => simp [errorAt, h]
  | stray hc | openLiteral hc | badEscape hc =>
    have hcs : c ≠ '/' := ne_of_class hc (by decide)
    simp [errorAt, hcs]

theorem stopsAt_of_halts {s vs t : List Char} {e : LiteralEnd} (hc : CharClass.of c = .quote)
    (hs : IsBody c s vs) (ht : Halts c t e) : StopsAt c (s ++ t) s vs.length t := by
  obtain ⟨hb, hn⟩ := LongestLexeme.quote_ne hc
  exact ⟨rfl, ⟨vs, hs, rfl⟩, fun u v hu => ht.not_prefix hb hn hu⟩

theorem literalFault_of_refused (h : Refused c r f) (hc : CharClass.of c = .quote) :
    ∃ s n t, StopsAt c r s n t ∧ LiteralFault p c s n t (errorAt p c r f) := by
  cases h with
  | loneReturn | openComment => cases hc
  | stray h => cases hc.symm.trans h
  | openLiteral _ hs ht =>
    refine ⟨_, _, _, stopsAt_of_halts hc hs ht, ?_⟩
    cases ht with
    | textEnd => exact .textEnd
    | lineEnd => exact .lineFeed
    | openEscape h =>
      obtain rfl | ⟨x, rfl⟩ := h
      · exact .backslashTextEnd
      · exact .backslashLineFeed
  | @badEscape _ s vs _ _ _ hs ht =>
    refine ⟨_, _, _, stopsAt_of_halts hc hs ht, ?_⟩
    cases ht with
    | @badEscape t _ hne he =>
      have htake : (c :: (s ++ '\\' :: t)).take (s.length + 1) = c :: s := by simp
      rw [errorAt, htake]
      refine .backslash (fun h => hne (.inl h)) ?_ he
      intro hlf
      exact hne (.inr (List.head?_eq_some_iff.mp hlf))
  | badCharacter hs ht hlen =>
    refine ⟨_, _, _, stopsAt_of_halts hc hs ht, ?_⟩
    cases ht with
    | quote => exact .quote rfl hlen

theorem diagnosed_of_refused (h : Refused c r f) : Diagnosed p c r (errorAt p c r f) := by
  refine ⟨unexpected_iff h, comment_iff h, ?_, ?_⟩
  · intro hc
    exact literalFault_of_refused h (CharClass.of_eq_quote_iff.mpr hc)
  · cases h with
    | loneReturn | stray => exact .inl ⟨_, rfl⟩
    | openComment => exact .inr (.inl rfl)
    | openLiteral hc | badEscape hc => exact .inr (.inr (CharClass.of_eq_quote_iff.mp hc))
    | badCharacter => exact .inr (.inr (.inr rfl))

/-- A scan fails at the first place where no step can be taken, with the error that the text there
calls for. -/
theorem tokenize_error_diagnosed {s : List Char} {e : ScanError} (h : tokenize s = .error e) :
    ∃ ts sc c r, Yields s ts sc ∧ sc.next.1 = .error e ∧ sc.rest = c :: r ∧
      s = ts.flatMap Token.text ++ c :: r ∧
      sc.position = Position.start.advanceAll (ts.flatMap Token.text) ∧
      Diagnosed sc.position c r e := by
  obtain ⟨ls, c, r, f, hm, hf, rfl, -⟩ := exists_refused h
  have hy := yields_of_munches hm Yields.start
  refine ⟨_, _, c, r, hy, ?_, rfl, ?_, ?_, diagnosed_of_refused hf⟩
  · simp [Scanner.next, Token.front, front_of_refused hf, errorAt]
  · simpa [texts_place] using hm.eq_append
  · simp [texts_place]

/-- In a character literal that is too long, the bad escape is the fault that is reported. -/
theorem tokenize_error_diagnosed_bad_escape :
    tokenize ['\t', '\'', 'a', 'b', '\\', 'q', '\''] =
        .error ⟨.invalidEscape (.unknown 'q'), ⟨0, 7, 4⟩⟩ ∧
      ∃ ts sc c r, Yields ['\t', '\'', 'a', 'b', '\\', 'q', '\''] ts sc ∧
        sc.next.1 = .error ⟨.invalidEscape (.unknown 'q'), ⟨0, 7, 4⟩⟩ ∧ sc.rest = c :: r ∧
        ['\t', '\'', 'a', 'b', '\\', 'q', '\''] = ts.flatMap Token.text ++ c :: r ∧
        sc.position = Position.start.advanceAll (ts.flatMap Token.text) ∧
        Diagnosed sc.position c r ⟨.invalidEscape (.unknown 'q'), ⟨0, 7, 4⟩⟩ := by
  have h : tokenize ['\t', '\'', 'a', 'b', '\\', 'q', '\''] =
      .error ⟨.invalidEscape (.unknown 'q'), ⟨0, 7, 4⟩⟩ := tokenize_of_error (by decide +kernel)
  exact ⟨h, tokenize_error_diagnosed h⟩

end XorScan.Failures
