import XorScan.Proofs.LineEndStyle

namespace XorScan.LineEndFaults

open CarriageReturns Failures LineEndStyle LiteralUnits Refusals Tokenization

variable {s a u r : List Char} {e e' : ScanError} {c d : Char} {f : Refusal}
  {ls : List (Kind × List Char)}

/-- Two errors tell of the same fault at the same line and column. -/
structure Alike (e e' : ScanError) : Prop where
  fault : e'.fault = e.fault
  line : e'.position.line = e.position.line
  column : e'.position.column = e.position.column

/-- The error is about a literal with the quote `d` behind `a`, which is cut off where its line ends
with a backslash. The units `u` stand before that backslash. -/
def BreaksLine (s : List Char) (e : ScanError) (a : List Char) (d : Char) (u : List Char) : Prop :=
  ∃ vs t, s = a ++ d :: (u ++ '\\' :: '\n' :: t) ∧ IsBody d u vs ∧
    e = ⟨.unterminatedLiteral d, Position.start.advanceAll a⟩

theorem eq_of_advanceAll_eq {b x y : List Char} (h : a ++ x = b ++ y)
    (hp : Position.start.advanceAll a = Position.start.advanceAll b) : a = b ∧ x = y := by
  have hlen : Text.byteLength a = Text.byteLength b := by
    have ho := congrArg Position.offset hp
    rw [Position.offset_advanceAll, Position.offset_advanceAll] at ho
    exact Nat.add_left_cancel ho
  have ha := Text.splitBytes?_byteLength a x
  rw [h, hlen, Text.splitBytes?_byteLength] at ha
  simpa [eq_comm] using ha

theorem take_distance_crlf (h : Refused c r f) :
    (c :: crlf r).take f.distance = crlf ((c :: r).take f.distance) := by
  have hc := h.ne_lineFeed
  cases h with
  | badEscape _ hs =>
    have hself := crlf_eq_self (lineFeed_notMem_of_isBody hs)
    simp [crlf_body_append hs, crlf_cons hc, hself]
  | _ => rfl

theorem alike_errorAt (h : Refused c r f) (a : List Char) :
    Alike (errorAt (Position.start.advanceAll a) c r f)
      (errorAt (Position.start.advanceAll (crlf a)) c (crlf r) f) := by
  have ha := line_column_crlf (p := .start) (q := .start) ⟨rfl, rfl⟩ a
  have hplace := line_column_crlf ha ((c :: r).take f.distance)
  rw [← take_distance_crlf h] at hplace
  exact ⟨rfl, hplace.1, hplace.2⟩

/-- Where a backslash ends the line, the other style finds an escape of the carriage return. -/
theorem error_of_breaksLine (h : tokenize s = .error e) (hcr : '\r' ∉ s)
    (hb : BreaksLine s e a d u) : tokenize (crlf s) =
      .error ⟨.invalidEscape (.unknown '\r'), Position.start.advanceAll (crlf a ++ d :: u)⟩ := by
  obtain ⟨vs, t, hs, hu, rfl⟩ := hb
  obtain ⟨ls, c, r, f, hm, hf, he, -⟩ := exists_refused h
  cases hf with
  | @openLiteral _ s' vs' t' hc hs' ht =>
    have hp : Position.start.advanceAll a = Position.start.advanceAll (spelled ls) :=
      congrArg ScanError.position he
    obtain ⟨rfl, hrest⟩ := eq_of_advanceAll_eq (hs.symm.trans hm.eq_append) hp
    obtain ⟨rfl, -⟩ := List.cons.inj hrest
    have hbad : Refused d (crlf (u ++ '\\' :: '\n' :: t))
        ⟨.invalidEscape (.unknown '\r'), u.length + 1⟩ := by
      rw [crlf_body_append hu, crlf_cons (by decide), crlf_lineFeed]
      exact .badEscape hc hu (.badEscape (by simp) rfl)
    have hd : d ≠ '\n' := ne_of_class hc (by decide)
    rw [← hrest] at hm
    rw [tokenize_crlf_error hm hcr hd hbad, crlf_body_append hu]
    simp [errorAt, Position.advanceAll_append]
  | _ => cases he

/-- A source that does not scan fails in the other style of line ends too, with the same fault at the
same line and column, unless a literal is cut off where its line ends with a backslash. That backslash
escapes nothing before a line feed, and is a bad escape before a carriage return. -/
theorem tokenize_error_crlf (h : tokenize s = .error e) (hcr : '\r' ∉ s) :
    ∃ e', tokenize (crlf s) = .error e' ∧ (Alike e e' ↔ ¬ ∃ a d u, BreaksLine s e a d u) ∧
      ∀ a d u, BreaksLine s e a d u →
        e' = ⟨.invalidEscape (.unknown '\r'), Position.start.advanceAll (crlf a ++ d :: u)⟩ := by
  by_cases hb : ∃ a d u, BreaksLine s e a d u
  · obtain ⟨a, d, u, hb⟩ := hb
    have he' := error_of_breaksLine h hcr hb
    refine ⟨_, he', iff_of_false ?_ (not_not.mpr ⟨a, d, u, hb⟩), ?_⟩
    · obtain ⟨vs, t, -, -, rfl⟩ := hb
      intro halike
      cases halike.fault
    · intro a' d' u' hb'
      exact Except.error.inj (he'.symm.trans (error_of_breaksLine h hcr hb'))
  · obtain ⟨ls, c, r, f, hm, hf, he, -⟩ := exists_refused h
    have hr : '\r' ∉ c :: r := fun hx => hcr (hm.eq_append ▸ List.mem_append_right _ hx)
    obtain hf' | ⟨u, vs, t, rfl, hu, rfl, -⟩ := refused_crlf hf hr
    · refine ⟨_, tokenize_crlf_error hm hcr hf.ne_lineFeed hf', iff_of_true ?_ hb, ?_⟩
      · rw [he]
        exact alike_errorAt hf _
      · exact fun a d u hbreaks => absurd ⟨a, d, u, hbreaks⟩ hb
    · exact absurd ⟨spelled ls, c, u, vs, t, hm.eq_append, hu, he⟩ hb

def badEscape : List Char := ['x', '\n', '\t', '"', 'a', '\\', 'q']

theorem tokenize_error_crlf_badEscape :
    tokenize badEscape = .error ⟨.invalidEscape (.unknown 'q'), ⟨1, 6, 5⟩⟩ ∧ '\r' ∉ badEscape ∧
      ∃ p : Position, tokenize (crlf badEscape) = .error ⟨.invalidEscape (.unknown 'q'), p⟩ ∧
        p.line = 1 ∧ p.column = 6 := by
  have h : tokenize badEscape = .error ⟨.invalidEscape (.unknown 'q'), ⟨1, 6, 5⟩⟩ :=
    tokenize_of_error (by decide +kernel)
  have hcr : '\r' ∉ badEscape := by decide
  have hkept : ¬ ∃ a d u,
      BreaksLine badEscape ⟨.invalidEscape (.unknown 'q'), ⟨1, 6, 5⟩⟩ a d u := by
    rintro ⟨a, d, u, vs, t, -, -, he⟩
    cases he
  obtain ⟨⟨fault, p⟩, he', halike, -⟩ := tokenize_error_crlf h hcr
  obtain ⟨rfl, hline, hcolumn⟩ := halike.mpr hkept
  exact ⟨h, hcr, p, he', hline, hcolumn⟩

/-- A string whose line ends with a backslash is cut off before a line feed. Before a carriage return
it has a bad escape, in another column. -/
theorem crlf_changes_fault :
    '\r' ∉ ['"', '\\', '\n'] ∧ crlf ['"', '\\', '\n'] = ['"', '\\', '\r', '\n'] ∧
      tokenize ['"', '\\', '\n'] = .error ⟨.unterminatedLiteral '"', .start⟩ ∧
      tokenize ['"', '\\', '\r', '\n'] = .error ⟨.invalidEscape (.unknown '\r'), ⟨0, 1, 1⟩⟩ ∧
      ¬ ∀ s e, '\r' ∉ s → tokenize s = .error e →
        ∃ e', tokenize (crlf s) = .error e' ∧ Alike e e' := by
  have hcr : '\r' ∉ ['"', '\\', '\n'] := by decide
  have h : tokenize ['"', '\\', '\n'] = .error ⟨.unterminatedLiteral '"', .start⟩ :=
    tokenize_of_error (by decide +kernel)
  have h' : tokenize ['"', '\\', '\r', '\n'] =
      .error ⟨.invalidEscape (.unknown '\r'), ⟨0, 1, 1⟩⟩ := tokenize_of_error (by decide +kernel)
  refine ⟨hcr, rfl, h, h', fun hall => ?_⟩
  obtain ⟨e', he', halike⟩ := hall _ _ hcr h
  obtain rfl := Except.error.inj (h'.symm.trans he')
  cases halike.fault

end XorScan.LineEndFaults
