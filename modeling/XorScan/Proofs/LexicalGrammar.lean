import XorScan.Proofs.CommentExtent
import XorScan.Proofs.LiteralUnits
import XorScan.Proofs.SymbolTable

namespace XorScan.LexicalGrammar

open CommentExtent LiteralUnits

def wordKind (w : List Char) : Kind :=
  (Kind.reserved? (String.ofList w)).getD (.literal .identifier)

/-- The texts that are tokens, each with its kind. -/
inductive IsLexeme : Kind → List Char → Prop
  | lineFeed : IsLexeme (.trivia .newline) ['\n']
  | lineEnd : IsLexeme (.trivia .newline) ['\r', '\n']
  | space : IsLexeme (.trivia .space) [' ']
  | tab : IsLexeme (.trivia .tab) ['\t']
  | lineComment {w : List Char} (h : '\n' ∉ w) : IsLexeme (.trivia .comment) ('/' :: '/' :: w)
  | blockComment {w : List Char} (h : Closes w) : IsLexeme (.trivia .comment) ('/' :: '*' :: w)
  | symbol (y : Symbol) : IsLexeme (.symbol y) y.spelling
  | word {c : Char} {w : List Char} (hc : c.isAlpha ∨ c = '_')
      (hw : ∀ x ∈ w, x.isAlphanum ∨ x = '_') : IsLexeme (wordKind (c :: w)) (c :: w)
  | number {c : Char} {w : List Char} (h : ∀ x ∈ c :: w, x.isDigit) :
      IsLexeme (.literal .number) (c :: w)
  | decimal {c d : Char} {w f : List Char} (h : ∀ x ∈ c :: w, x.isDigit)
      (hf : ∀ x ∈ d :: f, x.isDigit) : IsLexeme (.literal .decimal) (c :: w ++ '.' :: d :: f)
  | string {s vs : List Char} (h : IsBody '"' s vs) :
      IsLexeme (.literal .string) ('"' :: s ++ ['"'])
  | character {u : List Char} {v : Char} (h : IsUnit '\'' u v) :
      IsLexeme (.literal .character) ('\'' :: u ++ ['\''])

/-- What the class of its first character `c` tells about a lexeme `c :: w` of kind `k`. -/
def Shape (k : Kind) (c : Char) (w : List Char) : CharClass → Prop
  | .newline => k = .trivia .newline ∧ (c = '\n' ∧ w = [] ∨ c = '\r' ∧ w = ['\n'])
  | .space => k = .trivia .space ∧ w = []
  | .tab => k = .trivia .tab ∧ w = []
  | .slash => (k = .trivia .comment ∧ ∃ b, w = '/' :: b ∨ w = '*' :: b) ∨
      ∃ y : Symbol, k = .symbol y ∧ y.spelling = c :: w
  | .symbol => ∃ y : Symbol, k = .symbol y ∧ y.spelling = c :: w
  | .identStart => k = wordKind (c :: w) ∧ ∀ x ∈ w, CharClass.isIdentContinue x = true
  | .digit => (k = .literal .number ∧ ∀ x ∈ w, x.isDigit = true) ∨
      k = .literal .decimal ∧ ∃ a d f, w = a ++ '.' :: d :: f ∧ (∀ x ∈ a, x.isDigit = true) ∧
        ∀ x ∈ d :: f, x.isDigit = true
  | .quote => (k = .literal .string ∧ c = '"' ∧ ∃ s vs, w = s ++ ['"'] ∧ IsBody '"' s vs) ∨
      k = .literal .character ∧ c = '\'' ∧ ∃ u v, w = u ++ ['\''] ∧ IsUnit '\'' u v
  | .other => False

theorem IsLexeme.ne_nil {k : Kind} {w : List Char} (h : IsLexeme k w) : w ≠ [] := by
  cases h with
  | symbol y => cases y <;> simp [Symbol.spelling]
  | _ => simp

theorem IsLexeme.shape {k : Kind} {c : Char} {w : List Char} (h : IsLexeme k (c :: w)) :
    Shape k c w (CharClass.of c) := by
  generalize hx : c :: w = x at h
  cases h with
  | lineFeed =>
    cases hx
    exact ⟨rfl, .inl ⟨rfl, rfl⟩⟩
  | lineEnd =>
    cases hx
    exact ⟨rfl, .inr ⟨rfl, rfl⟩⟩
  | space | tab =>
    cases hx
    exact ⟨rfl, rfl⟩
  | lineComment =>
    cases hx
    exact .inl ⟨rfl, _, .inl rfl⟩
  | blockComment =>
    cases hx
    exact .inl ⟨rfl, _, .inr rfl⟩
  | symbol y =>
    obtain hc | hc := SymbolTable.class_of_spelling hx.symm
    · rw [hc]
      exact ⟨y, rfl, hx.symm⟩
    · rw [hc]
      exact .inr ⟨y, rfl, hx.symm⟩
  | word hc hw =>
    cases hx
    have hs : CharClass.isIdentStart c := by simpa [CharClass.isIdentStart] using hc
    rw [CharClass.of_eq_identStart_iff.mpr hs]
    exact ⟨rfl, by simpa [CharClass.isIdentContinue] using hw⟩
  | number h =>
    cases hx
    rw [CharClass.of_eq_digit_iff.mpr (h c (by simp))]
    exact .inl ⟨rfl, fun x hm => h x (by simp [hm])⟩
  | decimal h hf =>
    cases hx
    rw [CharClass.of_eq_digit_iff.mpr (h c (by simp))]
    exact .inr ⟨rfl, _, _, _, rfl, fun x hm => h x (by simp [hm]), hf⟩
  | string h =>
    cases hx
    exact .inl ⟨rfl, rfl, _, _, rfl, h⟩
  | character h =>
    cases hx
    exact .inr ⟨rfl, rfl, _, _, rfl, h⟩

theorem isReserved_wordKind (w : List Char) :
    (wordKind w).isReserved = true ∨ wordKind w = .literal .identifier := by
  unfold wordKind Kind.reserved?
  cases Keyword.ofWord? (String.ofList w) with
  | some k => exact .inl rfl
  | none =>
    cases Primitive.ofWord? (String.ofList w) with
    | some p => exact .inl rfl
    | none =>
      simp only [Option.map_none, Option.orElse_eq_orElse, Option.orElse_eq_or, Option.none_or]
      split
      · exact .inl rfl
      · split
        · exact .inl rfl
        · exact .inr rfl

theorem wordKind_ne_endOfInput (w : List Char) : wordKind w ≠ .endOfInput := by
  intro he
  have h := isReserved_wordKind w
  simp [he, Kind.isReserved] at h

theorem IsLexeme.kind_ne_endOfInput {k : Kind} {w : List Char} (h : IsLexeme k w) :
    k ≠ .endOfInput := by
  cases h with
  | word => exact wordKind_ne_endOfInput _
  | _ => simp

/-- A text is a token of one kind only. -/
theorem IsLexeme.kind_unique {k k' : Kind} {w : List Char} (h : IsLexeme k w)
    (h' : IsLexeme k' w) : k = k' := by
  obtain ⟨c, x, rfl⟩ := List.exists_cons_of_ne_nil h.ne_nil
  have hs := h.shape
  have hs' := h'.shape
  cases hc : CharClass.of c with
  | newline | space | tab | identStart =>
    rw [hc] at hs hs'
    exact hs.1.trans hs'.1.symm
  | slash =>
    obtain rfl := CharClass.of_eq_slash_iff.mp hc
    obtain ⟨rfl, b, hb⟩ | ⟨y, rfl, hy⟩ := hs <;> obtain ⟨rfl, b', hb'⟩ | ⟨y', rfl, hy'⟩ := hs'
    · rfl
    · have hn := SymbolTable.spelling_ne_comment y' b
      simp_all
    · have hn := SymbolTable.spelling_ne_comment y b'
      simp_all
    · rw [SymbolTable.spelling_injective (hy.trans hy'.symm)]
  | symbol =>
    rw [hc] at hs hs'
    obtain ⟨y, rfl, hy⟩ := hs
    obtain ⟨y', rfl, hy'⟩ := hs'
    rw [SymbolTable.spelling_injective (hy.trans hy'.symm)]
  | digit =>
    rw [hc] at hs hs'
    -- A number with a point is not one without: a point is no digit.
    have hdot : ∀ a b : List Char, ¬ ∀ x ∈ a ++ '.' :: b, x.isDigit = true := by
      intro a b hall
      exact absurd (hall '.' (by simp)) (by decide)
    obtain ⟨rfl, hw⟩ | ⟨rfl, a, d, f, rfl, -, -⟩ := hs <;>
      obtain ⟨rfl, hw'⟩ | ⟨rfl, a', d', f', he, -, -⟩ := hs'
    · rfl
    · exact absurd (he ▸ hw) (hdot _ _)
    · exact absurd hw' (hdot _ _)
    · rfl
  | quote =>
    rw [hc] at hs hs'
    obtain ⟨rfl, hq, -⟩ | ⟨rfl, hq, -⟩ := hs <;> obtain ⟨rfl, hq', -⟩ | ⟨rfl, hq', -⟩ := hs'
    · rfl
    · exact absurd (hq.symm.trans hq') (by decide)
    · exact absurd (hq.symm.trans hq') (by decide)
    · rfl
  | other =>
    rw [hc] at hs
    exact hs.elim

end XorScan.LexicalGrammar
