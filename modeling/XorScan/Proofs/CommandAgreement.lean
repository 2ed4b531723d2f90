import XorScan.Proofs.HiddenTrivia
import XorScan.Proofs.TokenDump

namespace XorScan.CommandAgreement

open CommandOutput HiddenTrivia JsonText ListingRows PrintedTokens TokenDump Tokenization

variable {files : Files} {stdin : ByteArray} {input : String} {f : SourceFile}
  {s : List Char} {ts : List Token}

def rowCount (dump : String) : Nat := dump.toList.count '\n'

theorem rowCount_listing {rows : List String} (h : ∀ r ∈ rows, '\n' ∉ r.toList) :
    rowCount (listing rows) = rows.length := by
  induction rows with
  | nil => rfl
  | cons r rows ih =>
    have hr : r.toList.count '\n' = 0 := List.count_eq_zero.mpr (h r List.mem_cons_self)
    have hrows := ih fun x hx => h x (List.mem_cons_of_mem r hx)
    rw [rowCount, toList_listing_cons, List.count_append, hr, List.count_cons_self, Nat.zero_add]
    exact congrArg (· + 1) hrows

/-- A text dump has a line for each entry, in which the entry can be read. -/
structure IsTextDump (dump : String) (entries : List Entry) : Prop where
  rows : ∃ rows, dump.toList.splitOn '\n' = rows ++ [[]] ∧ rows.map readRow? = entries.map some
  count : rowCount dump = entries.length

/-- A JSON dump has a record for each entry, in which the entry can be read, and no other records can
be read in it. -/
structure IsJsonDump (dump : String) (entries : List Entry) : Prop where
  records : ∃ rs, dump = Json.prettyArray rs ++ "\n" ∧ rs.map readRecord? = entries.map some ∧
    ∀ rs', dump = Json.prettyArray rs' ++ "\n" → rs' = rs

def printed (ts : List Token) (trivia : Bool) : List Entry :=
  (ts.filter (·.isShown trivia)).map .ofToken

theorem isTextDump_output (input : String) (trivia : Bool) (ts : List Token) :
    IsTextDump (output (.tokens input .text trivia) ts) (printed ts trivia) where
  rows := by
    refine ⟨(ts.filter (·.isShown trivia)).map (·.row.toList), (isListing_output ..).lines, ?_⟩
    rw [printed, List.map_map, List.map_map]
    exact List.map_congr_left fun t _ => readRow?_row t
  count := by
    rw [output_text, rowCount_listing (lineFeed_notMem_rows _), printed, List.length_map,
      List.length_map]

theorem isJsonDump_output (input : String) (trivia : Bool) (ts : List Token) :
    IsJsonDump (output (.tokens input .json trivia) ts) (printed ts trivia) where
  records := by
    refine ⟨(ts.filter (·.isShown trivia)).map Token.record, output_json input trivia ts, ?_, ?_⟩
    · rw [printed, List.map_map, List.map_map]
      exact List.map_congr_left fun t _ => readRecord?_record t
    · intro rs h
      rw [output_json, String.append_left_inj] at h
      exact (prettyArray_injective h).symm

/-- What the dumps of an input with the content `s` are with trivia or without, the end of input last
in both formats. -/
structure Dumped (files : Files) (stdin : ByteArray) (input : String) (s : List Char) (trivia : Bool)
    (entries : List Entry) : Prop where
  text : ∃ dump, (Command.tokens input .text trivia).run files stdin .unbounded = (dump, none) ∧
    IsTextDump dump entries
  json : ∃ dump, (Command.tokens input .json trivia).run files stdin .unbounded = (dump, none) ∧
    IsJsonDump dump entries
  last : entries.getLast? = some ⟨"EOI", Text.byteLength s, []⟩

theorem getLast?_printed (h : tokenize s = .ok ts) (trivia : Bool) :
    (printed ts trivia).getLast? = some ⟨"EOI", Text.byteLength s, []⟩ := by
  obtain ⟨ls, -, rfl⟩ := munches_of_tokenize h
  have hoffset := Position.offset_advanceAll .start s
  rw [printed, List.filter_append, List.filter_cons_of_pos (by cases trivia <;> rfl), List.filter_nil,
    List.map_append, List.map_singleton, List.getLast?_concat, Entry.ofToken, Token.endOfInput,
    hoffset]
  simp [Position.start, Kind.name]

theorem dumped_of_loads (h : Loads files stdin input f ts) (trivia : Bool) :
    Dumped files stdin input f.content trivia (printed ts trivia) where
  text := ⟨_, run_of_loads h, isTextDump_output input trivia ts⟩
  json := ⟨_, run_of_loads h, isJsonDump_output input trivia ts⟩
  last := getLast?_printed h.scans trivia

theorem significant_succ (h : tokenize s = .ok ts) :
    (Summary.ofTokens ts).significant + 1 = (ts.filter (·.isShown false)).length := by
  obtain ⟨ls, hm, rfl⟩ := munches_of_tokenize h
  have hplaced := (Lifecycle.of_munches hm).1
  have hcount : (place .start ls).countP Token.isSignificant =
      (place .start ls).countP (·.isShown false) := by
    refine List.countP_congr fun t ht => ?_
    rw [Token.isSignificant, hplaced t ht, Token.isShown]
    simp
  rw [Summary.ofTokens, ← List.countP_eq_length_filter, List.countP_append, List.countP_append,
    hcount]
  rfl

theorem runCheck_of_loads (h : Loads files stdin input f ts) :
    Command.runCheck files stdin .unbounded input =
      (output (.check input) ts, .ok (Summary.ofTokens ts)) := by
  have hwrite : Device.unbounded.write "" ((Command.check input).pieces ts) =
      ("" ++ output (.check input) ts, none) := write_of_takes rfl
  rw [Command.runCheck, scanInput_of_read h.read, h.scans]
  simp only [Except.mapError, hwrite, String.empty_append]

/-- What the commands tell of an input with the content `s`: the check gives and writes the counts of
the dumps, and a dump without trivia leaves out nothing but trivia. -/
structure Agreement (files : Files) (stdin : ByteArray) (input : String) (s : List Char)
    (summary : Summary) (entries : Bool → List Entry) : Prop where
  check : Command.runCheck files stdin .unbounded input =
    ("ok: " ++ toString summary.total ++ " tokens (" ++ toString summary.significant ++
      " significant)" ++ "\n", .ok summary)
  dumps : ∀ trivia, Dumped files stdin input s trivia (entries trivia)
  total : summary.total = (entries true).length
  significant : summary.significant + 1 = (entries false).length
  hidden : HidesTrivia s (entries false)

theorem agreement_of_loads (h : Loads files stdin input f ts) :
    Agreement files stdin input f.content (Summary.ofTokens ts) (printed ts) where
  check := by
    rw [runCheck_of_loads h, output_check]
    rfl
  dumps := dumped_of_loads h
  total := by rw [printed, List.length_map, filter_isShown_true, Summary.ofTokens]
  significant := by rw [significant_succ h.scans, printed, List.length_map]
  hidden := hidesTrivia_of_tokenize h.scans

theorem succeeds_iff {c : Command} (h : readSource files stdin c.input = .ok f) :
    (c.run files stdin .unbounded).2 = none ↔ ∃ ts, tokenize f.content = .ok ts := by
  cases hs : tokenize f.content with
  | ok ts => simp [run_of_loads ⟨h, hs⟩]
  | error e => simp [run_of_error .unbounded h hs]

/-- On an input that can be read, all commands succeed, and then agree, or all fail with one error
and one report. -/
theorem commands_agree (h : readSource files stdin input = .ok f) :
    (∀ c c' : Command, c.input = input → c'.input = input →
      ((c.run files stdin .unbounded).2 = none ↔ (c'.run files stdin .unbounded).2 = none)) ∧
    (∀ c : Command, c.input = input → (c.run files stdin .unbounded).2 ≠ none →
      ∃ e, tokenize f.content = .error e ∧ ∀ c' : Command, c'.input = input →
        c'.run files stdin .unbounded = ("", some (.scan e (e.diagnostic.render f)))) ∧
    ∀ c : Command, c.input = input → (c.run files stdin .unbounded).2 = none →
      ∃ ts, tokenize f.content = .ok ts ∧
        Agreement files stdin input f.content (Summary.ofTokens ts) (printed ts) := by
  refine ⟨?_, ?_, ?_⟩
  · rintro c c' rfl hc'
    rw [succeeds_iff h, succeeds_iff (hc' ▸ h)]
  · rintro c rfl hfail
    rw [Ne, succeeds_iff h] at hfail
    cases hs : tokenize f.content with
    | ok ts => exact absurd ⟨ts, hs⟩ hfail
    | error e => exact ⟨e, rfl, fun c' hc' => run_of_error .unbounded (hc' ▸ h) hs⟩
  · rintro c rfl hdone
    obtain ⟨ts, hs⟩ := (succeeds_iff h).mp hdone
    exact ⟨ts, hs, agreement_of_loads ⟨h, hs⟩⟩

def parted : List Char := ['a', ' ', '/', '*', '\n', '*', '/', 'b']

def partedTokens : List Token :=
  [⟨.literal .identifier, ['a'], .start⟩, ⟨.trivia .space, [' '], ⟨0, 1, 1⟩⟩,
    ⟨.trivia .comment, ['/', '*', '\n', '*', '/'], ⟨0, 2, 2⟩⟩,
    ⟨.literal .identifier, ['b'], ⟨1, 2, 7⟩⟩, Token.endOfInput ⟨1, 3, 8⟩]

theorem commands_agree_parted :
    let stdin := (String.ofList parted).toUTF8
    let check := Command.check "-"
    readSource noFiles stdin "-" = .ok ⟨"<stdin>", parted⟩ ∧ check.input = "-" ∧
      (check.run noFiles stdin .unbounded).2 = none ∧
      Command.runCheck noFiles stdin .unbounded "-" =
        ("ok: 5 tokens (2 significant)\n", .ok ⟨5, 2⟩) ∧
      printed partedTokens false =
        [⟨"IDENTIFIER", 0, ['a']⟩, ⟨"IDENTIFIER", 7, ['b']⟩, ⟨"EOI", 8, []⟩] ∧
      Agreement noFiles stdin "-" parted ⟨5, 2⟩ (printed partedTokens) := by
  intro stdin check
  have hrun : Scan.run .start parted = ⟨partedTokens, none⟩ := by decide +kernel
  have hscan : tokenize parted = .ok partedTokens := by rw [tokenize, hrun]
  have hread : readSource noFiles stdin "-" = .ok ⟨"<stdin>", parted⟩ :=
    readSource_of_text (s := parted) rfl
  have hdone : (check.run noFiles stdin .unbounded).2 = none := by
    rw [run_of_loads ⟨hread, hscan⟩]
  have hsummary : Summary.ofTokens partedTokens = ⟨5, 2⟩ := by decide
  obtain ⟨ts, hts, hagree⟩ := (commands_agree hread).2.2 check rfl hdone
  cases hscan.symm.trans hts
  rw [hsummary] at hagree
  exact ⟨hread, rfl, hdone, hagree.check, rfl, hagree⟩

end XorScan.CommandAgreement
