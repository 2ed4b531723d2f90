import XorScan.Proofs.MaximalMunch

namespace XorScan.Refusals

open CommentExtent LiteralUnits LongestLexeme MaximalMunch

/-- Why no token stands at the front of a text. -/
inductive Refused : Char → List Char → Refusal → Prop
  | loneReturn {r : List Char} (h : r.head? ≠ some '\n') :
      Refused '\r' r ⟨.unexpectedCharacter '\r', 0⟩
  | stray {c : Char} {r : List Char} (h : CharClass.of c = .other) :
      Refused c r ⟨.unexpectedCharacter c, 0⟩
  | openComment {b : List Char} (h : ¬ ['*', '/'] <:+: b) :
      Refused '/' ('*' :: b) ⟨.unterminatedComment, 0⟩
  | openLiteral {c : Char} {s vs t : List Char} (hc : CharClass.of c = .quote) (hs : IsBody c s vs)
      (ht : Halts c t .cutOff) : Refused c (s ++ t) ⟨.unterminatedLiteral c, 0⟩
  | badEscape {c : Char} {s vs t : List Char} {e : EscapeError} (hc : CharClass.of c = .quote)
      (hs : IsBody c s vs) (ht : Halts c t (.badEscape e)) :
      Refused c (s ++ t) ⟨.invalidEscape e, s.length + 1⟩
  | badCharacter {s vs t : List Char} (hs : IsBody '\'' s vs) (ht : Halts '\'' t .closed)
      (hlen : vs.length ≠ 1) : Refused '\'' (s ++ t) ⟨.invalidCharLiteral, 0⟩

variable {c : Char} {r : List Char} {f : Refusal}

theorem refused_of_newline (hc : CharClass.of c = .newline) (h : Lexeme.newline c r = .error f) :
    Refused c r f := by
  unfold Lexeme.newline at h
  split at h
  · cases h
  next hn =>
    split at h
    · cases h
    next hr =>
      cases h
      obtain rfl := (CharClass.of_eq_newline_iff.mp hc).resolve_left hn
      exact .loneReturn hr

theorem symbol_ne_error (hc : CharClass.of c = .symbol ∨ CharClass.of c = .slash) :
    Lexeme.symbol c r ≠ .error f := by
  obtain ⟨y, hy⟩ := SymbolTable.longest?_isSome hc r
  rw [Lexeme.symbol, hy]
  rintro ⟨⟩

theorem refused_of_slash (h : Lexeme.slash '/' r = .error f) : Refused '/' r f := by
  unfold Lexeme.slash at h
  split at h
  · cases h
  next b =>
    split at h
    · cases h
    next hb =>
      cases h
      exact .openComment (closingLength?_eq_none_iff.mp hb)
  · exact absurd h (symbol_ne_error (.inr rfl))

theorem refused_of_quoted (hc : CharClass.of c = .quote) (h : Lexeme.quoted c r = .error f) :
    Refused c r f := by
  obtain ⟨hb, hn⟩ := quote_ne hc
  obtain ⟨s, vs, t, e, rfl, hs, ht⟩ := exists_body_halts c r
  unfold Lexeme.quoted at h
  rw [read_body hb hn hs ht] at h
  cases e with
  | cutOff =>
    cases h
    exact .openLiteral hc hs ht
  | badEscape e =>
    cases h
    exact .badEscape hc hs ht
  | closed =>
    dsimp only at h
    split at h
    · cases h
    next hq =>
      obtain rfl := (CharClass.of_eq_quote_iff.mp hc).resolve_left hq
      split at h
      · cases h
      next hlen =>
        cases h
        exact .badCharacter hs ht hlen

theorem refused_of_front (h : Lexeme.front c r = .error f) : Refused c r f := by
  unfold Lexeme.front at h
  split at h
  next hc => exact refused_of_newline hc h
  · cases h
  · cases h
  next hc =>
    obtain rfl := CharClass.of_eq_slash_iff.mp hc
    exact refused_of_slash h
  next hc => exact absurd h (symbol_ne_error (.inl hc))
  · cases h
  · cases h
  next hc => exact refused_of_quoted hc h
  next hc =>
    cases h
    exact .stray hc

theorem front_of_quote (hc : CharClass.of c = .quote) : Lexeme.front c r = Lexeme.quoted c r := by
  rw [Lexeme.front, hc]

theorem front_of_refused (h : Refused c r f) : Lexeme.front c r = .error f := by
  cases h with
  | loneReturn h =>
    change Lexeme.newline '\r' r = _
    simp [Lexeme.newline, h]
  | stray h => rw [Lexeme.front, h]
  | openComment h =>
    rw [front_blockComment, closingLength?_eq_none_iff.mpr h]
  | openLiteral hc hs ht =>
    obtain ⟨hb, hn⟩ := quote_ne hc
    rw [front_of_quote hc, Lexeme.quoted, read_body hb hn hs ht]
  | badEscape hc hs ht =>
    obtain ⟨hb, hn⟩ := quote_ne hc
    rw [front_of_quote hc, Lexeme.quoted, read_body hb hn hs ht]
  | badCharacter hs ht hlen =>
    rw [front_of_quote rfl, Lexeme.quoted, read_body (by decide) (by decide) hs ht]
    simp [hlen]

theorem Refused.ne_lineFeed (h : Refused c r f) : c ≠ '\n' := by
  rintro rfl
  have hclass : CharClass.of '\n' = .newline := by decide
  cases h with
  | stray hc | openLiteral hc | badEscape hc => cases hclass.symm.trans hc

theorem Refused.distance_le (h : Refused c r f) : f.distance ≤ (c :: r).length := by
  cases h with
  | badEscape => simp
  | _ => exact Nat.zero_le _

end XorScan.Refusals
