import Mathlib.Data.List.Forall2
import XorScan.Proofs.LiteralValues

namespace XorScan.LiteralSpelling

open Escape EscapeGrammar LexicalGrammar LiteralUnits LiteralValues MaximalMunch Tokenization

def hexDigits : List (Char × Nat) :=
  [('0', 0), ('1', 1), ('2', 2), ('3', 3), ('4', 4), ('5', 5), ('6', 6), ('7', 7), ('8', 8), ('9', 9),
    ('a', 10), ('b', 11), ('c', 12), ('d', 13), ('e', 14), ('f', 15),
    ('A', 10), ('B', 11), ('C', 12), ('D', 13), ('E', 14), ('F', 15)]

/-- Hexadecimal digits that write a number, the most significant first. There may be leading zeros. -/
inductive Numeral : List Char → Nat → Prop
  | nil : Numeral [] 0
  | snoc {ds : List Char} {x : Char} {n m : Nat} (h : Numeral ds n) (hx : (x, m) ∈ hexDigits) :
      Numeral (ds ++ [x]) (16 * n + m)

def letters : List (Char × Char) :=
  [('\n', 'n'), ('\t', 't'), ('\r', 'r'), ('\x00', '0'), ('\\', '\\'), ('"', '"'), ('\'', '\'')]

/-- The ways to write the character `c` inside quotes `d`. Two digits write the characters up to
`U+00FF` only. -/
inductive Encodes (d c : Char) : List Char → Prop
  | verbatim (hd : c ≠ d) (hb : c ≠ '\\') (hn : c ≠ '\n') : Encodes d c [c]
  | letter {x : Char} (h : (c, x) ∈ letters) : Encodes d c ['\\', x]
  | hex {a b : Char} (h : Numeral [a, b] c.toNat) : Encodes d c ['\\', 'x', a, b]
  | unicode {ds : List Char} (hpos : ds ≠ []) (hle : ds.length ≤ 6) (h : Numeral ds c.toNat) :
      Encodes d c ('\\' :: 'u' :: '{' :: ds ++ ['}'])

theorem digit?_of_mem {x : Char} {m : Nat} (h : (x, m) ∈ hexDigits) : Hex.digit? x = some m := by
  have hall : ∀ p ∈ hexDigits, Hex.digit? p.1 = some p.2 := by decide
  exact hall (x, m) h

theorem letter?_of_mem {c x : Char} (h : (c, x) ∈ letters) : letter? x = some c := by
  have hall : ∀ p ∈ letters, letter? p.2 = some p.1 := by decide
  exact hall (c, x) h

theorem Numeral.read {ds : List Char} {n : Nat} (h : Numeral ds n) :
    (∀ d ∈ ds, Hex.isDigit d = true) ∧ Hex.value ds = n := by
  induction h with
  | nil => exact ⟨by simp, rfl⟩
  | @snoc ds x n m h hx ih =>
    obtain ⟨hds, hv⟩ := ih
    have hdig := digit?_of_mem hx
    constructor
    · intro d hd
      obtain hd | hd := List.mem_append.mp hd
      · exact hds d hd
      · obtain rfl := List.mem_singleton.mp hd
        simp [Hex.isDigit, hdig]
    · rw [← hv]
      simp [Hex.value, hdig]

variable {d c : Char}

theorem isUnit_of_encodes {e : List Char} (h : Encodes d c e) : IsUnit d e c := by
  cases h with
  | verbatim hd hb hn => exact .plain hd hb hn
  | letter h => exact .escape (isEscape_iff.mp (.letter (letter?_of_mem h)))
  | @hex a b h =>
    obtain ⟨hds, hv⟩ := h.read
    have he := IsEscape.hex (hds a (by simp)) (hds b (by simp))
    rw [hv, Char.ofNat_toNat] at he
    exact .escape (isEscape_iff.mp he)
  | @unicode ds hpos hle h =>
    obtain ⟨hds, hv⟩ := h.read
    have he := IsEscape.unicode hds hpos hle (hv ▸ c.valid)
    rw [hv, Char.ofNat_toNat] at he
    exact .escape (isEscape_iff.mp he)

theorem isBody_of_encodes {v : List Char} {es : List (List Char)}
    (h : List.Forall₂ (Encodes d) v es) : IsBody d es.flatten v := by
  induction h with
  | nil => exact .nil
  | cons he hes ih => exact .cons (isUnit_of_encodes he) ih

theorem tokenize_of_lexeme {k : Kind} {w : List Char} (h : IsLexeme k w) :
    tokenize w = .ok [⟨k, w, .start⟩, Token.endOfInput (Position.start.advanceAll w)] :=
  tokenize_of_munches (munches_lexeme h)

/-- Inside quotes `d`, the text `body` is read back as `v`, by itself and as the body of the only
token of a source. -/
structure ReadsBack (k : Kind) (d : Char) (body v : List Char) : Prop where
  unescape : unescape body = .ok v
  token : ∃ t, tokenize (d :: body ++ [d]) =
      .ok [t, Token.endOfInput (Position.start.advanceAll (d :: body ++ [d]))] ∧
    t.kind = k ∧ t.text = d :: body ++ [d] ∧ t.position = .start ∧ t.literalValue = .ok (some v)

theorem readsBack_of_body {k : Kind} {body v : List Char} (hk : quote? k = some d)
    (hb : IsBody d body v) (h : IsLexeme k (d :: body ++ [d])) : ReadsBack k d body v :=
  ⟨unescape_of_body hb, _, tokenize_of_lexeme h, rfl, rfl, rfl, literalValue_of_body hk rfl hb⟩

theorem exists_encodes (hd : d = '"' ∨ d = '\'') (c : Char) : ∃ e, Encodes d c e := by
  by_cases hc : c = d ∨ c = '\\' ∨ c = '\n'
  · have hmem : ∃ x, (c, x) ∈ letters := by
      obtain rfl | rfl | rfl := hc
      · obtain rfl | rfl := hd
        · exact ⟨'"', by decide⟩
        · exact ⟨'\'', by decide⟩
      · exact ⟨'\\', by decide⟩
      · exact ⟨'n', by decide⟩
    obtain ⟨x, hx⟩ := hmem
    exact ⟨_, .letter hx⟩
  · simp only [not_or] at hc
    exact ⟨_, .verbatim hc.1 hc.2.1 hc.2.2⟩

/-- Every text can be written as a string, and every way to write it is read back as that text; the
same holds of a character between single quotes. -/
theorem spelling_read_back :
    (∀ v, ∃ es, List.Forall₂ (Encodes '"') v es) ∧ (∀ c, ∃ e, Encodes '\'' c e) ∧
      (∀ v es, List.Forall₂ (Encodes '"') v es →
        ReadsBack (.literal .string) '"' es.flatten v) ∧
      ∀ c e, Encodes '\'' c e → ReadsBack (.literal .character) '\'' e [c] := by
  refine ⟨?_, exists_encodes (.inr rfl), ?_, ?_⟩
  · intro v
    induction v with
    | nil => exact ⟨[], .nil⟩
    | cons c v ih =>
      obtain ⟨es, hes⟩ := ih
      obtain ⟨e, he⟩ := exists_encodes (.inl rfl) c
      exact ⟨e :: es, .cons he hes⟩
  · intro v es h
    have hb := isBody_of_encodes h
    exact readsBack_of_body rfl hb (.string hb)
  · intro c e h
    have hu := isUnit_of_encodes h
    have hb := IsBody.cons hu .nil
    rw [List.append_nil] at hb
    exact readsBack_of_body rfl hb (.character hu)

def mixed : List (List Char) :=
  [['\\', 'x', '4', '1'], ['1'], ['\\', '0'], ['7'], ['\\', 'u', '{', '0', '2', '2', '}']]

theorem spelling_read_back_mixed :
    List.Forall₂ (Encodes '"') ['A', '1', '\x00', '7', '"'] mixed ∧
      ReadsBack (.literal .string) '"'
        ['\\', 'x', '4', '1', '1', '\\', '0', '7', '\\', 'u', '{', '0', '2', '2', '}']
        ['A', '1', '\x00', '7', '"'] := by
  have hA : Numeral ['4', '1'] 'A'.toNat :=
    .snoc (n := 4) (m := 1) (.snoc (n := 0) (m := 4) .nil (by decide)) (by decide)
  have hquote : Numeral ['0', '2', '2'] '"'.toNat :=
    .snoc (n := 2) (m := 2) (.snoc (n := 0) (m := 2) (.snoc (n := 0) (m := 0) .nil (by decide))
      (by decide)) (by decide)
  have h : List.Forall₂ (Encodes '"') ['A', '1', '\x00', '7', '"'] mixed :=
    .cons (.hex hA) <| .cons (.verbatim (by decide) (by decide) (by decide)) <|
      .cons (.letter (by decide)) <| .cons (.verbatim (by decide) (by decide) (by decide)) <|
      .cons (.unicode (by decide) (by decide) hquote) .nil
  exact ⟨h, spelling_read_back.2.2.1 _ _ h⟩

end XorScan.LiteralSpelling
