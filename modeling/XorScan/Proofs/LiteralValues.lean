import XorScan.Dump
import XorScan.Proofs.ScannerRun

namespace XorScan.LiteralValues

open EscapeGrammar LexicalGrammar LiteralUnits MaximalMunch ScannerRun Tokenization

variable {d : Char}

/-- The way through a literal in quotes `d`: the units passed, each with the character that it
stands for, and what is left. An escape is decoded against all of the text behind its backslash. -/
inductive Walk (d : Char) : List Char → List (List Char × Char) → List Char → Prop
  | done {r : List Char} : Walk d r [] r
  | plain {c : Char} {r t : List Char} {us : List (List Char × Char)} (hd : c ≠ d) (hb : c ≠ '\\')
      (hn : c ≠ '\n') (h : Walk d r us t) : Walk d (c :: r) (([c], c) :: us) t
  | escape {r t : List Char} {v : Char} {n : Nat} {us : List (List Char × Char)}
      (he : Escape.decode r = .ok (v, n)) (h : Walk d (r.drop n) us t) :
      Walk d ('\\' :: r) (('\\' :: r.take n, v) :: us) t

def written (us : List (List Char × Char)) : List Char := us.flatMap Prod.fst

def meant (us : List (List Char × Char)) : List Char := us.map Prod.snd

theorem walk_of_body {s vs : List Char} (h : IsBody d s vs) (t : List Char) :
    ∃ us, Walk d (s ++ t) us t ∧ written us = s ∧ meant us = vs := by
  induction h with
  | nil => exact ⟨[], .done, rfl, rfl⟩
  | @cons u s vs v hu hs ih =>
    obtain ⟨us, hw, rfl, rfl⟩ := ih
    cases hu with
    | plain hd hb hn => exact ⟨([v], v) :: us, .plain hd hb hn hw, rfl, rfl⟩
    | @escape e _ he =>
      have hdec := decode_append (isEscape_iff.mpr he) (written us ++ t)
      have hdrop : (e ++ (written us ++ t)).drop e.length = written us ++ t := List.drop_left
      have htake : (e ++ (written us ++ t)).take e.length = e := List.take_left
      have hstep := Walk.escape hdec (hdrop.symm ▸ hw)
      rw [htake] at hstep
      refine ⟨('\\' :: e, v) :: us, by simpa using hstep, rfl, rfl⟩

theorem unescape_of_body {s vs : List Char} (h : IsBody d s vs) : Escape.unescape s = .ok vs := by
  induction h with
  | nil => rw [Escape.unescape]
  | @cons u s vs v hu hs ih =>
    cases hu with
    | plain hd hb hn =>
      rw [List.singleton_append, Escape.unescape, if_neg hb, ih]
      rfl
    | @escape e _ he =>
      have hdec := decode_append (isEscape_iff.mpr he) s
      rw [List.cons_append, Escape.unescape, if_pos rfl, hdec]
      dsimp only
      rw [List.drop_left, ih]
      rfl

theorem slice?_quoted (hd : d.utf8Size = 1) (s : List Char) :
    Text.slice? (d :: s ++ [d]) 1 (Text.byteLength (d :: s ++ [d]) - 1) = some s := by
  have h := Text.slice?_append [d] s [d]
  have hlen : Text.byteLength (d :: s ++ [d]) - 1 = 1 + Text.byteLength s := by
    rw [Text.byteLength_append]
    simp [hd]
  rw [hlen]
  simpa [hd] using h

def quote? : Kind → Option Char
  | .literal .string => some '"'
  | .literal .character => some '\''
  | _ => none

theorem quote?_wordKind (w : List Char) : quote? (wordKind w) = none := by
  have h := isReserved_wordKind w
  unfold quote?
  split
  next hk => simp [hk, Kind.isReserved] at h
  next hk => simp [hk, Kind.isReserved] at h
  · rfl

theorem quote?_isSome_iff {k : Kind} :
    (quote? k).isSome ↔ k = .literal .string ∨ k = .literal .character := by
  unfold quote?
  split <;> simp_all

theorem quote?_ne {k : Kind} (h : quote? k = some d) : d ≠ '\\' ∧ d ≠ '\n' := by
  unfold quote? at h
  split at h <;> cases h <;> decide

theorem body_of_lexeme {k : Kind} {w : List Char} (h : IsLexeme k w) (hk : quote? k = some d) :
    ∃ s vs, w = d :: s ++ [d] ∧ IsBody d s vs ∧ (k = .literal .character → vs.length = 1) := by
  cases h with
  | word => rw [quote?_wordKind] at hk; cases hk
  | @string s vs hs =>
    cases hk
    exact ⟨s, vs, rfl, hs, by simp⟩
  | @character u v hu =>
    cases hk
    exact ⟨u, [v], rfl, by simpa using IsBody.cons hu .nil, by simp⟩
  | _ => cases hk

/-- A literal `t` of the source `s`: from behind its opening quote the scanner passes the units `us`
up to the closing quote, and what they stand for is the value of the token. -/
structure Decoded (s : List Char) (t : Token) (d : Char) (us : List (List Char × Char)) : Prop where
  walked : ∃ a r, s = a ++ d :: (written us ++ d :: r) ∧ t.position = Position.start.advanceAll a ∧
    Walk d (written us ++ d :: r) us (d :: r) ∧
    LiteralBody.read d (written us ++ d :: r) = ⟨meant us, (written us).length, .closed⟩
  text : t.text = d :: written us ++ [d]
  value : t.literalValue = .ok (some (meant us))

theorem literalValue_of_body {t : Token} {s vs : List Char} (hk : quote? t.kind = some d)
    (ht : t.text = d :: s ++ [d]) (hs : IsBody d s vs) : t.literalValue = .ok (some vs) := by
  have hd : d.utf8Size = 1 ∧ (t.kind = .literal .string ∨ t.kind = .literal .character) := by
    unfold quote? at hk
    split at hk <;> cases hk <;> simp_all +decide
  have hbody : t.hasBody = true := by
    have hlen : 2 ≤ t.size := by
      rw [Token.size, ht, Text.byteLength_append]
      simp [hd.1]
    simpa [Token.hasBody, hlen] using hd.2
  have hcut := slice?_quoted hd.1 s
  rw [Token.literalValue, if_pos hbody, Token.size, ht, hcut]
  dsimp only
  rw [unescape_of_body hs]
  rfl

theorem exists_decoded {s a r : List Char} {t : Token} (hs : s = a ++ (t.text ++ r))
    (hp : t.position = Position.start.advanceAll a) (h : IsLexeme t.kind t.text)
    (hk : quote? t.kind = some d) :
    ∃ us, Decoded s t d us ∧ (t.kind = .literal .character → (meant us).length = 1) := by
  obtain ⟨b, vs, ht, hb, hlen⟩ := body_of_lexeme h hk
  obtain ⟨us, hw, rfl, rfl⟩ := walk_of_body hb (d :: r)
  have hne := quote?_ne hk
  refine ⟨us, ⟨⟨a, r, ?_, hp, hw, read_body hne.1 hne.2 hb .quote⟩, ht,
    literalValue_of_body hk ht hb⟩, hlen⟩
  rw [hs, ht]
  simp

theorem literalValue_of_quote?_eq_none {t : Token} (h : quote? t.kind = none) :
    t.literalValue = .ok none := by
  have hbody : t.hasBody = false := by
    unfold Token.hasBody
    rw [Bool.and_eq_false_iff, Bool.or_eq_false_iff, decide_eq_false_iff_not,
      decide_eq_false_iff_not]
    refine .inl ⟨?_, ?_⟩ <;> rintro hk <;> rw [hk] at h <;> cases h
  rw [Token.literalValue, hbody]
  rfl

theorem value_mem_record (t : Token) :
    "value" ∈ t.record.map Prod.fst ↔ ∃ v, t.literalValue = .ok (some v) := by
  unfold Token.record Token.value?
  cases t.literalValue with
  | error e => simp [Except.toOption]
  | ok v? => cases v? <;> simp [Except.toOption]

/-- The value of a literal that was scanned is what the scanner read in it, one character for a
character literal, and no other token has a value or a field for it. -/
theorem scanned_literal_decoded {s : List Char} {ts : List Token} {sc : Scanner}
    (h : Yields s ts sc) {t : Token} (ht : t ∈ ts) :
    (t.kind = .literal .string → ∃ us, Decoded s t '"' us) ∧
    (t.kind = .literal .character → ∃ us, Decoded s t '\'' us ∧ (meant us).length = 1) ∧
    (t.kind ≠ .literal .string → t.kind ≠ .literal .character → t.literalValue = .ok none) ∧
    ("value" ∈ t.record.map Prod.fst ↔
      t.kind = .literal .string ∨ t.kind = .literal .character) := by
  have hdec : ∀ d, quote? t.kind = some d →
      ∃ us, Decoded s t d us ∧ (t.kind = .literal .character → (meant us).length = 1) := by
    intro d hk
    obtain he | ⟨a, r, hs, hp, hstep⟩ := step_of_mem h ht
    · rw [he] at hk
      cases hk
    · exact exists_decoded hs hp hstep.lexeme hk
  have hnone : ¬ (t.kind = .literal .string ∨ t.kind = .literal .character) →
      t.literalValue = .ok none := by
    intro hk
    rw [← quote?_isSome_iff, Option.not_isSome_iff_eq_none] at hk
    exact literalValue_of_quote?_eq_none hk
  refine ⟨?_, ?_, ?_, ?_⟩
  · intro hk
    obtain ⟨us, hu, -⟩ := hdec '"' (by rw [hk]; rfl)
    exact ⟨us, hu⟩
  · intro hk
    obtain ⟨us, hu, hlen⟩ := hdec '\'' (by rw [hk]; rfl)
    exact ⟨us, hu, hlen hk⟩
  · intro hs hc
    exact hnone (not_or.mpr ⟨hs, hc⟩)
  · rw [value_mem_record]
    constructor
    · rintro ⟨v, hv⟩
      refine Decidable.byContradiction fun hk => ?_
      rw [hnone hk] at hv
      cases hv
    · intro hk
      obtain ⟨d, hd⟩ := Option.isSome_iff_exists.mp (quote?_isSome_iff.mpr hk)
      obtain ⟨us, hu, -⟩ := hdec d hd
      exact ⟨_, hu.value⟩

def escapedQuote : List Char := ['"', '\\', '"', '\\', '\\', '"', '$']

def escapedQuoteToken : Token := ⟨.literal .string, ['"', '\\', '"', '\\', '\\', '"'], .start⟩

theorem scanned_literal_decoded_escapedQuote :
    Yields escapedQuote [escapedQuoteToken] ⟨escapedQuote, ['$'], ⟨0, 6, 6⟩, .scanning⟩ ∧
      escapedQuoteToken ∈ [escapedQuoteToken] ∧
      ∃ us, Decoded escapedQuote escapedQuoteToken '"' us ∧ meant us = ['"', '\\'] := by
  have hread : LiteralBody.read '"' ['\\', '"', '\\', '\\', '"', '$'] =
      ⟨['"', '\\'], 4, .closed⟩ := by decide +kernel
  have hfront : Lexeme.front '"' ['\\', '"', '\\', '\\', '"', '$'] =
      .ok ⟨.literal .string, 5⟩ := by
    change Lexeme.quoted '"' _ = _
    rw [Lexeme.quoted, hread]
    rfl
  have hnext : (Scanner.ofSource escapedQuote).next =
      (.ok escapedQuoteToken, ⟨escapedQuote, ['$'], ⟨0, 6, 6⟩, .scanning⟩) := by
    simp only [Scanner.ofSource, Scanner.next, escapedQuote, Token.front, hfront]
    rfl
  have h := Yields.next .start hnext
  have hmem := List.mem_singleton.mpr (rfl : escapedQuoteToken = escapedQuoteToken)
  obtain ⟨us, hu⟩ := (scanned_literal_decoded h hmem).1 rfl
  have hv : escapedQuoteToken.value? = some ['"', '\\'] := by decide +kernel
  rw [Token.value?, hu.value] at hv
  exact ⟨h, hmem, us, hu, Option.some.inj hv⟩

end XorScan.LiteralValues
