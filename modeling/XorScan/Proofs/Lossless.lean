import XorScan.Proofs.PositionCounts
import XorScan.Proofs.ScannerRun

namespace XorScan.Lossless

open PositionCounts ScannerRun Tokenization

/-- Each token begins where the text before it ends, from `p` on. -/
def Adjoining (p : Position) : List Token → Prop
  | [] => True
  | t :: ts => t.position = p ∧ Adjoining (p.advanceAll t.text) ts

/-- What the first tokens of a text tell about it: nothing is lost or empty, and each position counts
exactly the characters before its token. -/
structure Faithful (s : List Char) (ts : List Token) : Prop where
  texts : ts.flatMap Token.text <+: s
  nonempty : ∀ t ∈ ts, t.kind ≠ .endOfInput → t.text ≠ []
  position : ∀ us t vs, ts = us ++ t :: vs →
    t.position = Position.start.advanceAll (us.flatMap Token.text)
  counts : ∀ us t vs, ts = us ++ t :: vs →
    t.position = ⟨(us.flatMap Token.text).count '\n', width (lastLine (us.flatMap Token.text)),
      Text.byteLength (us.flatMap Token.text)⟩
  cut : ∀ t ∈ ts, Text.slice? s t.position.offset t.endOffset = some t.text
  adjacent : ∀ us t t' vs, ts = us ++ t :: t' :: vs → t.endOffset = t'.position.offset

theorem adjoining_append {p : Position} {ts us : List Token} :
    Adjoining p (ts ++ us) ↔
      Adjoining p ts ∧ Adjoining (p.advanceAll (ts.flatMap Token.text)) us := by
  induction ts generalizing p with
  | nil => simp [Adjoining]
  | cons t ts ih => simp [Adjoining, ih, Position.advanceAll_append, and_assoc]

theorem adjoining_place (p : Position) (ls : List (Kind × List Char)) :
    Adjoining p (place p ls) := by
  induction ls generalizing p with
  | nil => trivial
  | cons l ls ih => exact ⟨rfl, ih _⟩

theorem endOffset_eq {t : Token} {p : Position} (h : t.position = p) :
    t.endOffset = (p.advanceAll t.text).offset := by
  rw [Token.endOffset, Token.size, Position.offset_advanceAll, h]

theorem faithful_of_adjoining {s r : List Char} {ts : List Token} (h : Adjoining .start ts)
    (hs : s = ts.flatMap Token.text ++ r)
    (hne : ∀ t ∈ ts, t.kind ≠ .endOfInput → t.text ≠ []) : Faithful s ts := by
  have hpos : ∀ us t vs, ts = us ++ t :: vs →
      t.position = Position.start.advanceAll (us.flatMap Token.text) := by
    rintro us t vs rfl
    exact (adjoining_append.mp h).2.1
  refine ⟨⟨r, hs.symm⟩, hne, hpos, ?_, ?_, ?_⟩
  · intro us t vs hts
    rw [hpos us t vs hts, advanceAll_start]
  · intro t ht
    obtain ⟨us, vs, rfl⟩ := List.append_of_mem ht
    have hp := hpos us t vs rfl
    have ho : t.position.offset = Text.byteLength (us.flatMap Token.text) := by
      rw [hp, advanceAll_start]
    have hcut := Text.slice?_append (us.flatMap Token.text) t.text (vs.flatMap Token.text ++ r)
    rw [Token.endOffset, ho, hs]
    simpa [Token.size] using hcut
  · rintro us t t' vs rfl
    have hp' := hpos (us ++ [t]) t' vs (by simp)
    rw [endOffset_eq (hpos us t (t' :: vs) rfl), hp', ← Position.advanceAll_append]
    simp

theorem of_mem_place {s r : List Char} {ls : List (Kind × List Char)} (h : Munches s ls r)
    {p : Position} {t : Token} (ht : t ∈ place p ls) : t.kind ≠ .endOfInput ∧ t.text ≠ [] := by
  have hl := h.isLexeme_of_mem _ (mem_of_mem_place ht)
  exact ⟨hl.kind_ne_endOfInput, hl.ne_nil⟩

/-- Every run of successful calls is faithful to the source up to the place that it has reached. A
complete scan passes over the whole source and ends it with its only end of input. -/
theorem scan_faithful (s : List Char) :
    (∀ ts sc, Yields s ts sc → Faithful s ts ∧
      Text.slice? s 0 sc.position.offset = some (ts.flatMap Token.text)) ∧
    ∀ ts, tokenize s = .ok ts → ts.flatMap Token.text = s ∧
      ∃ us, ts = us ++ [Token.endOfInput (Position.start.advanceAll s)] ∧
        ∀ t ∈ us, t.kind ≠ .endOfInput := by
  constructor
  · intro ts sc h
    obtain ⟨ls, hm, hp, hts⟩ := yields_cases h
    have htexts : ts.flatMap Token.text = spelled ls := by
      obtain ⟨-, rfl⟩ | ⟨-, -, rfl⟩ := hts <;> simp [texts_place, Token.endOfInput]
    have hs : s = ts.flatMap Token.text ++ sc.rest := by rw [htexts, ← hm.eq_append]
    refine ⟨faithful_of_adjoining ?_ hs ?_, ?_⟩
    · obtain ⟨-, rfl⟩ | ⟨-, -, rfl⟩ := hts
      · exact adjoining_place _ _
      · refine adjoining_append.mpr ⟨adjoining_place _ _, ?_, trivial⟩
        rw [texts_place, ← hp]
        rfl
    · intro t ht hk
      obtain ⟨-, rfl⟩ | ⟨-, -, rfl⟩ := hts
      · exact (of_mem_place hm ht).2
      · obtain ht | ht := List.mem_append.mp ht
        · exact (of_mem_place hm ht).2
        · cases List.mem_singleton.mp ht
          exact absurd rfl hk
    · have hcut := Text.slice?_append [] (ts.flatMap Token.text) sc.rest
      rw [hp, advanceAll_start, ← htexts]
      simpa [← hs] using hcut
  · intro ts h
    obtain ⟨ls, hm, rfl⟩ := munches_of_tokenize h
    have hs : s = spelled ls := by simpa using hm.eq_append
    refine ⟨?_, place .start ls, rfl, fun t ht => (of_mem_place hm ht).1⟩
    simp [texts_place, Token.endOfInput, ← hs]

def twoLines : List Char := ['/', '*', 'é', '\n', '*', '/', '\t', '5']

def twoLinesTokens : List Token :=
  [⟨.trivia .comment, ['/', '*', 'é', '\n', '*', '/'], .start⟩, ⟨.trivia .tab, ['\t'], ⟨1, 2, 7⟩⟩,
    ⟨.literal .number, ['5'], ⟨1, 6, 8⟩⟩]

theorem scan_faithful_twoLines :
    Yields twoLines twoLinesTokens ⟨twoLines, [], ⟨1, 7, 9⟩, .scanning⟩ ∧
      (Faithful twoLines twoLinesTokens ∧
        Text.slice? twoLines 0 9 = some (twoLinesTokens.flatMap Token.text)) ∧
      tokenize twoLines = .ok (twoLinesTokens ++ [Token.endOfInput ⟨1, 7, 9⟩]) ∧
      (twoLinesTokens ++ [Token.endOfInput ⟨1, 7, 9⟩]).flatMap Token.text = twoLines ∧
      ∃ us, twoLinesTokens ++ [Token.endOfInput ⟨1, 7, 9⟩] =
          us ++ [Token.endOfInput (Position.start.advanceAll twoLines)] ∧
        ∀ t ∈ us, t.kind ≠ .endOfInput := by
  have hy : Yields twoLines twoLinesTokens ⟨twoLines, [], ⟨1, 7, 9⟩, .scanning⟩ :=
    .next (.next (.next .start rfl) rfl) rfl
  have hrun : Scan.run .start twoLines =
      ⟨twoLinesTokens ++ [Token.endOfInput ⟨1, 7, 9⟩], none⟩ := by decide +kernel
  have ht : tokenize twoLines = .ok (twoLinesTokens ++ [Token.endOfInput ⟨1, 7, 9⟩]) := by
    rw [tokenize, hrun]
  exact ⟨hy, (scan_faithful twoLines).1 _ _ hy, ht, (scan_faithful twoLines).2 _ ht⟩

end XorScan.Lossless
