import XorScan.Proofs.CommandOutput
import XorScan.Proofs.JsonText

namespace XorScan.TokenDump

open CommandOutput JsonText ListingRows Tokenization

theorem source_of_map {α : Type} {g : Token → α} (hg : ∀ {t u}, g t = g u → t.text = u.text)
    {s s' : List Char} {ts ts' : List Token} (h : tokenize s = .ok ts) (h' : tokenize s' = .ok ts')
    (he : ts.map g = ts'.map g) : s = s' := by
  have htexts : ts.map Token.text = ts'.map Token.text := by
    rw [← List.forall₂_eq_eq_eq, List.forall₂_map_left_iff, List.forall₂_map_right_iff] at he ⊢
    exact he.imp fun _ _ => hg
  rw [← texts_of_tokenize h, ← texts_of_tokenize h', List.flatMap_def, htexts, ← List.flatMap_def]

theorem text_of_record {t u : Token} (h : t.record = u.record) : t.text = u.text := by
  have hfield := congrArg (·[2]?) h
  simpa [Token.record] using hfield

theorem filter_isShown_true (ts : List Token) : ts.filter (·.isShown true) = ts :=
  List.filter_eq_self.mpr fun _ _ => rfl

theorem source_of_output {format : OutputFormat} {input input' : String} {s s' : List Char}
    {ts ts' : List Token} (h : tokenize s = .ok ts) (h' : tokenize s' = .ok ts')
    (he : output (.tokens input format true) ts = output (.tokens input' format true) ts') :
    s = s' := by
  cases format with
  | text =>
    rw [output_text, output_text, filter_isShown_true, filter_isShown_true] at he
    have hrows := listing_injective (lineFeed_notMem_rows ts) (lineFeed_notMem_rows ts') he
    exact source_of_map text_of_row h h' hrows
  | json =>
    rw [output_json, output_json, filter_isShown_true, filter_isShown_true,
      String.append_left_inj] at he
    exact source_of_map text_of_record h h' (prettyArray_injective he)

/-- A text dump as its lines: the rows of the tokens that are shown, and no line feed but those that
end them. -/
structure IsListing (dump : String) (shown : List Token) : Prop where
  rows : dump = listing (shown.map Token.row)
  plain : ∀ t ∈ shown, '\n' ∉ t.row.toList
  lines : dump.toList.splitOn '\n' = shown.map (·.row.toList) ++ [[]]

theorem isListing_output (input : String) (trivia : Bool) (ts : List Token) :
    IsListing (output (.tokens input .text trivia) ts) (ts.filter (·.isShown trivia)) where
  rows := output_text input trivia ts
  plain t _ := lineFeed_notMem_row t
  lines := by
    rw [output_text, splitOn_listing (lineFeed_notMem_rows _), List.map_map]
    rfl

/-- Two sources with one dump in either format, trivia shown, are the same. A text dump has a line
for each token that is shown, whatever stands in the tokens. -/
theorem dump_tells_source :
    (∀ {files files' : Files} {stdin stdin' : ByteArray} {input input' : String}
      {f f' : SourceFile} {ts ts' : List Token}, Loads files stdin input f ts →
      Loads files' stdin' input' f' ts' → ∀ format,
      ((Command.tokens input format true).run files stdin .unbounded).1 =
        ((Command.tokens input' format true).run files' stdin' .unbounded).1 →
      f.content = f'.content) ∧
    ∀ {files : Files} {stdin : ByteArray} {input : String} {f : SourceFile} {ts : List Token},
      Loads files stdin input f ts → ∀ trivia, ∃ dump,
        (Command.tokens input .text trivia).run files stdin .unbounded = (dump, none) ∧
        IsListing dump (ts.filter (·.isShown trivia)) := by
  constructor
  · intro files files' stdin stdin' input input' f f' ts ts' h h' format he
    rw [run_of_loads h, run_of_loads h'] at he
    exact source_of_output h.scans h'.scans he
  · intro files stdin input f ts h trivia
    exact ⟨_, run_of_loads h, isListing_output input trivia ts⟩

def marked : List Char := ['\ufeff', '/', '*', '"', '\n', '*', '/']

def unmarked : List Char := ['/', '*', '"', '\n', '*', '/']

def markedFiles : Files := ⟨fun _ => true, fun _ => .ok (String.ofList marked).toUTF8⟩

def markedTokens : List Token :=
  [⟨.trivia .comment, unmarked, .start⟩, Token.endOfInput ⟨1, 2, 6⟩]

theorem dump_tells_source_marked :
    Loads markedFiles .empty "a" ⟨"a", unmarked⟩ markedTokens ∧
      Loads markedFiles (String.ofList unmarked).toUTF8 "-" ⟨"<stdin>", unmarked⟩ markedTokens ∧
      (∀ format, ((Command.tokens "a" format true).run markedFiles .empty .unbounded).1 =
        ((Command.tokens "-" format true).run markedFiles (String.ofList unmarked).toUTF8
          .unbounded).1) ∧
      (SourceFile.mk "a" unmarked).content = (SourceFile.mk "<stdin>" unmarked).content ∧
      ∃ dump, (Command.tokens "a" .text true).run markedFiles .empty .unbounded = (dump, none) ∧
        IsListing dump markedTokens := by
  have hrun : Scan.run .start unmarked = ⟨markedTokens, none⟩ := by decide +kernel
  have hscan : tokenize unmarked = .ok markedTokens := by rw [tokenize, hrun]
  have h : Loads markedFiles .empty "a" ⟨"a", unmarked⟩ markedTokens :=
    ⟨readSource_of_text (s := marked) rfl, hscan⟩
  have h' : Loads markedFiles (String.ofList unmarked).toUTF8 "-" ⟨"<stdin>", unmarked⟩
      markedTokens :=
    ⟨readSource_of_text (s := unmarked) rfl, hscan⟩
  have he : ∀ format, ((Command.tokens "a" format true).run markedFiles .empty .unbounded).1 =
      ((Command.tokens "-" format true).run markedFiles (String.ofList unmarked).toUTF8
        .unbounded).1 := by
    intro format
    rw [run_of_loads h, run_of_loads h']
    cases format <;> rfl
  exact ⟨h, h', he, dump_tells_source.1 h h' .text (he .text), dump_tells_source.2 h true⟩

end XorScan.TokenDump
