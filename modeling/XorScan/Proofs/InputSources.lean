import XorScan.Proofs.FailingStage

namespace XorScan.InputSources

open Arguments CommandOutput FailingStage ListingRows

def onInput (input : String) : Action → Action
  | .tokens _ format? noTrivia => .tokens input format? noTrivia
  | .check _ => .check input

def withInput (i : Invocation) (input : String) : Invocation :=
  { i with action := onInput input i.action }

/-- Two worlds agree on all but what stands on standard input and in the files that are not read as
a configuration. -/
structure SameSetting (w w' : World) (config? : Option String) : Prop where
  environment : w'.environment = w.environment
  userConfig? : w'.userConfig? = w.userConfig?
  stdout : w'.stdout = w.stdout
  config : SameConfig w.files w'.files w.userConfig? config?

/-- The report of a scan error about a source: its second row has an arrow and the name. -/
def scanReport (name : String) (e : ScanError) (width : Nat) (rows : List String) : String :=
  listing (("error: " ++ e.fault.message) ::
    (Text.padLeft width "-->" ++ " " ++ name ++ ":" ++ e.position.display) :: rows)

/-- What is told about the bytes on standard input of `w`, and about the same bytes in a file, where
loading the configuration gives `loaded`. Only the name of the input differs, and just where it is told
which source does not scan or is no text. -/
inductive ToldAlike (w : World) (loaded : Except Failure Config) (file : String) :
    String → String → Prop
  | badConfig {f : Failure} (h : loaded = .error f) :
    ToldAlike w loaded file (f.report ["failed to load configuration"])
      (f.report ["failed to load configuration"])
  | noText {c : Config} (h : loaded = .ok c) (hno : ∀ s, w.stdin ≠ (String.ofList s).toUTF8) :
    ToldAlike w loaded file ("error: cannot read " ++ "-" ++ ": stream did not contain valid UTF-8\n")
      ("error: cannot read " ++ file ++ ": stream did not contain valid UTF-8\n")
  | scanError {c : Config} {s : List Char} {e : ScanError} {width : Nat} {rows : List String}
      (h : loaded = .ok c) (hs : w.stdin = (String.ofList s).toUTF8)
      (he : tokenize (dropMark s) = .error e)
      (hr : ∀ name, e.diagnostic.render ⟨name, dropMark s⟩ = scanReport name e width rows) :
    ToldAlike w loaded file (scanReport "<stdin>" e width rows) (scanReport file e width rows)
  | scanned {c : Config} {s : List Char} {ts : List Token} {report : String} (h : loaded = .ok c)
      (hs : w.stdin = (String.ofList s).toUTF8) (hts : tokenize (dropMark s) = .ok ts)
      (hquiet : w.stdout = .unbounded → report = "") :
    ToldAlike w loaded file report report

structure EndsAlike (w : World) (loaded : Except Failure Config) (file : String) (o o' : Outcome) :
    Prop where
  status : o'.status = o.status
  stdout : o'.stdout = o.stdout
  stderr : ToldAlike w loaded file o.stderr o'.stderr

def mark : ByteArray := ⟨#[0xEF, 0xBB, 0xBF]⟩

variable {w w' : World} {i : Invocation} {c : Config} {file : String} {r : Program.Readers}

theorem toUTF8_mark (s : List Char) :
    (String.ofList ('\ufeff' :: s)).toUTF8 = mark ++ (String.ofList s).toUTF8 := by
  rw [String.ofList_cons]
  rfl

theorem dropMark_of_head? {s : List Char} (h : s.head? ≠ some '\ufeff') : dropMark s = s := by
  unfold dropMark
  split
  · simp at h
  · rfl

theorem SameSetting.load_eq {path? : Option String} (h : SameSetting w w' path?) :
    Config.loadWith r.config w'.files w'.userConfig? path? =
      Config.loadWith r.config w.files w.userConfig? path? := by
  rw [h.userConfig?, h.config.load_eq]

/-- Files and standard input have a say in a run by the configuration and the source alone. -/
theorem carryOut_congr (h : SameSetting w w' i.config?)
    (hread : readSource w'.files w'.stdin i.action.input =
      readSource w.files w.stdin i.action.input) :
    Program.carryOut r w' i = Program.carryOut r w i := by
  unfold Program.carryOut
  rw [h.load_eq]
  cases Config.loadWith r.config w.files w.userConfig? i.config? with
  | error f => rfl
  | ok c =>
    have hinput := input_command c i.action
    simp only [Program.logFilter, run_eq, Command.events, scanInput, hinput, hread, h.environment,
      h.stdout]

theorem render_named (e : ScanError) (content : List Char) :
    ∃ width rows, ∀ name, e.diagnostic.render ⟨name, content⟩ = scanReport name e width rows :=
  ⟨((e.diagnostic.snippet? ⟨"", content⟩).map Snippet.gutterWidth).getD 3 + 1,
    (e.diagnostic.rows ⟨"", content⟩).drop 2, fun _ => rfl⟩

theorem inputBytes_stdin (files : Files) (stdin : ByteArray) :
    inputBytes files stdin stdinName = .ok stdin := if_pos rfl

theorem inputBytes_file (hfile : file ≠ stdinName) (files : Files) (stdin : ByteArray) :
    inputBytes files stdin file = files.read file := if_neg hfile

theorem decodeText_error {bytes : ByteArray} {e : IoError} (h : decodeText bytes = .error e) :
    e = .invalidData ∧ ∀ s, bytes ≠ (String.ofList s).toUTF8 := by
  constructor
  · unfold decodeText at h
    split at h
    · cases h
    · exact (Except.error.inj h).symm
  · intro s hs
    cases h.symm.trans (decodeText_eq_ok_iff.mpr hs)

theorem run_of_no_decode {files : Files} {stdin bytes : ByteArray} {cmd : Command}
    (h : inputBytes files stdin cmd.input = .ok bytes) (hd : decodeText bytes = .error .invalidData)
    (d : Device) : cmd.run files stdin d = ("", some (.unreadable cmd.input .invalidData)) := by
  apply run_of_unreadable
  rw [readSource_eq, h]
  dsimp only
  rw [hd]

theorem told_unreadable (input : String) : told (some (.unreadable input .invalidData)) =
    "error: cannot read " ++ input ++ ": stream did not contain valid UTF-8\n" :=
  report_unreadable input .invalidData

theorem told_scan (e : ScanError) (report : String) : told (some (.scan e report)) = report := rfl

/-- Two runs of commands write the same, both fail or neither does, and they tell the same but for
the input. -/
structure RunsAlike (w : World) (loaded : Except Failure Config) (file : String)
    (res res' : String × Option Failure) : Prop where
  out : res'.1 = res.1
  fails : res'.2.isSome = res.2.isSome
  told : ToldAlike w loaded file (told res.2) (told res'.2)

theorem runsAlike_of_bytes {cmd cmd' : Command} {loaded : Except Failure Config}
    (hc : loaded = .ok c) (hinput : cmd.input = stdinName) (hinput' : cmd'.input = file)
    (hpieces : cmd'.pieces = cmd.pieces) (hfile : file ≠ stdinName)
    (hread : w'.files.read file = .ok w.stdin) :
    RunsAlike w loaded file (cmd.run w.files w.stdin w.stdout)
      (cmd'.run w'.files w'.stdin w.stdout) := by
  have hbytes : inputBytes w.files w.stdin cmd.input = .ok w.stdin := by
    rw [hinput, inputBytes_stdin]
  have hbytes' : inputBytes w'.files w'.stdin cmd'.input = .ok w.stdin := by
    rw [hinput', inputBytes_file hfile, hread]
  have hname : inputName cmd.input = "<stdin>" := by
    rw [hinput]
    exact if_pos rfl
  have hname' : inputName cmd'.input = file := by
    rw [hinput']
    exact if_neg hfile
  cases hd : decodeText w.stdin with
  | error e =>
    obtain ⟨rfl, hno⟩ := decodeText_error hd
    rw [run_of_no_decode hbytes hd, run_of_no_decode hbytes' hd]
    refine ⟨rfl, by simp, ?_⟩
    rw [told_unreadable, told_unreadable, hinput, hinput']
    exact .noText hc hno
  | ok s =>
    have hs := decodeText_eq_ok_iff.mp hd
    have hsource := readSource_of_text (hbytes.trans (congrArg Except.ok hs))
    have hsource' := readSource_of_text (hbytes'.trans (congrArg Except.ok hs))
    cases ht : tokenize (dropMark s) with
    | error e =>
      obtain ⟨width, rows, hrender⟩ := render_named e (dropMark s)
      rw [run_of_error w.stdout hsource ht, run_of_error w.stdout hsource' ht]
      refine ⟨rfl, by simp, ?_⟩
      rw [told_scan, told_scan, hname, hname', hrender, hrender]
      exact .scanError hc hs ht hrender
    | ok ts =>
      have hquiet : w.stdout = .unbounded → told (cmd.run w.files w.stdin w.stdout).2 = "" := by
        intro hd
        rw [hd, run_of_loads ⟨hsource, ht⟩]
        rfl
      have hsame : cmd'.run w'.files w'.stdin w.stdout = cmd.run w.files w.stdin w.stdout := by
        rw [run_eq_write ⟨hsource, ht⟩, run_eq_write ⟨hsource', ht⟩, hpieces]
      rw [hsame]
      exact ⟨rfl, rfl, .scanned hc hs ht hquiet⟩

theorem pieces_withInput (c : Config) (i : Invocation) (input input' : String) :
    (Program.command c (withInput i input).action).pieces =
      (Program.command c (withInput i input').action).pieces := by
  funext ts
  cases h : i.action with
  | tokens _ format? noTrivia =>
    simp only [withInput, onInput, h, Program.command]
    cases format?.getD c.format <;> rfl
  | check =>
    simp only [withInput, onInput, h]
    rfl

theorem input_withInput (i : Invocation) (input : String) :
    (withInput i input).action.input = input := by
  cases h : i.action <;> simp only [withInput, onInput, h] <;> rfl

theorem input_command_withInput (c : Config) (i : Invocation) (input : String) :
    (Program.command c (withInput i input).action).input = input := by
  rw [input_command, input_withInput]

theorem endsAlike_of_bytes (r : Program.Readers) (hfile : file ≠ stdinName)
    (h : SameSetting w w' i.config?) (hread : w'.files.read file = .ok w.stdin) :
    EndsAlike w (Config.loadWith r.config w.files w.userConfig? i.config?) file
      (Program.carryOut r w (withInput i stdinName)) (Program.carryOut r w' (withInput i file)) := by
  cases hc : Config.loadWith r.config w.files w.userConfig? i.config? with
  | error f =>
    rw [carryOut_of_error (i := withInput i stdinName) hc,
      carryOut_of_error (i := withInput i file) (h.load_eq.trans hc)]
    exact ⟨rfl, rfl, .badConfig rfl⟩
  | ok c =>
    have hinput := input_command_withInput c i stdinName
    have hinput' := input_command_withInput c i file
    obtain ⟨hout, hfails, htold⟩ := runsAlike_of_bytes (w := w) (Eq.refl (Except.ok c))
      hinput hinput' (pieces_withInput c i file stdinName) hfile hread
    obtain ⟨hstatus, hstdout, hstderr⟩ := carryOut_of_run (i := withInput i stdinName) hc rfl
    obtain ⟨hstatus', hstdout', hstderr'⟩ :=
      carryOut_of_run (i := withInput i file) (h.load_eq.trans hc) rfl
    rw [h.stdout] at hstatus' hstdout' hstderr'
    refine ⟨?_, ?_, ?_⟩
    · rw [hstatus, hstatus', hfails]
    · rw [hstdout, hstdout', hout]
    · rw [hstderr, hstderr']
      exact htold

theorem readSource_marked {files files' : Files} {stdin stdin' : ByteArray} {input : String}
    {s : List Char} (hs : s.head? ≠ some '\ufeff')
    (h : inputBytes files stdin input = .ok (String.ofList s).toUTF8)
    (h' : inputBytes files' stdin' input = .ok (mark ++ (String.ofList s).toUTF8)) :
    readSource files' stdin' input = readSource files stdin input := by
  rw [← toUTF8_mark] at h'
  rw [readSource_of_text h, readSource_of_text h', dropMark_of_head? hs]
  rfl

/-- A run with a byte order mark in front of its input is the run without it. -/
theorem run_marked {args : List String} {s : List Char}
    (hp : r.arguments w.environment args = .ok i)
    (h : SameSetting w w' i.config?) (hs : s.head? ≠ some '\ufeff')
    (hplain : inputBytes w.files w.stdin i.action.input = .ok (String.ofList s).toUTF8)
    (hmarked : inputBytes w'.files w'.stdin i.action.input =
      .ok (mark ++ (String.ofList s).toUTF8)) :
    Program.runWith r w' args = Program.runWith r w args := by
  rw [run_of_parse hp, run_of_parse (h.environment ▸ hp)]
  exact carryOut_congr h (readSource_marked hs hplain hmarked)

/-- Whether bytes come from standard input or from a file, a run ends alike but for the name of the
input; and a byte order mark in front of a text changes nothing on either way. -/
theorem sources_alike (r : Program.Readers) {args args' : List String} (hfile : file ≠ stdinName)
    (hp : r.arguments w.environment args = .ok (withInput i stdinName))
    (hp' : r.arguments w.environment args' = .ok (withInput i file)) :
    (∀ w', SameSetting w w' i.config? → w'.files.read file = .ok w.stdin →
      EndsAlike w (Config.loadWith r.config w.files w.userConfig? i.config?) file
        (Program.runWith r w args) (Program.runWith r w' args')) ∧
    ∀ s, s.head? ≠ some '\ufeff' → ∀ w', SameSetting w w' i.config? →
      (w.stdin = (String.ofList s).toUTF8 → w'.stdin = mark ++ (String.ofList s).toUTF8 →
        Program.runWith r w' args = Program.runWith r w args) ∧
      (w.files.read file = .ok (String.ofList s).toUTF8 →
        w'.files.read file = .ok (mark ++ (String.ofList s).toUTF8) →
        Program.runWith r w' args' = Program.runWith r w args') := by
  constructor
  · intro w' h hread
    rw [run_of_parse hp, run_of_parse (h.environment ▸ hp')]
    exact endsAlike_of_bytes r hfile h hread
  · intro s hs w' h
    constructor
    · intro hplain hmarked
      refine run_marked hp h hs ?_ ?_
      · rw [input_withInput, inputBytes_stdin, hplain]
      · rw [input_withInput, inputBytes_stdin, hmarked]
    · intro hplain hmarked
      refine run_marked hp' h hs ?_ ?_
      · rw [input_withInput, inputBytes_file hfile, hplain]
      · rw [input_withInput, inputBytes_file hfile, hmarked]

theorem toUTF8_injective {s t : List Char}
    (h : (String.ofList s).toUTF8 = (String.ofList t).toUTF8) : s = t :=
  Except.ok.inj ((decodeText_eq_ok_iff.mpr rfl).symm.trans (decodeText_eq_ok_iff.mpr h))

theorem ToldAlike.of_no_text {x y : String} (h : ToldAlike w (.ok c) file x y)
    (hno : ∀ s, w.stdin ≠ (String.ofList s).toUTF8) :
    x = "error: cannot read " ++ "-" ++ ": stream did not contain valid UTF-8\n" ∧
      y = "error: cannot read " ++ file ++ ": stream did not contain valid UTF-8\n" := by
  cases h with
  | badConfig h => cases h
  | noText => exact ⟨rfl, rfl⟩
  | scanError _ hs => exact absurd hs (hno _)
  | scanned _ hs => exact absurd hs (hno _)

theorem ToldAlike.of_error {s : List Char} {e : ScanError} {x y : String}
    (h : ToldAlike w (.ok c) file x y) (hs : w.stdin = (String.ofList s).toUTF8)
    (he : tokenize (dropMark s) = .error e) :
    ∃ width rows, x = scanReport "<stdin>" e width rows ∧ y = scanReport file e width rows := by
  cases h with
  | badConfig h => cases h
  | noText _ hno => exact absurd hs (hno s)
  | scanError _ hs' he' =>
    obtain rfl := toUTF8_injective (hs.symm.trans hs')
    obtain rfl := Except.error.inj (he.symm.trans he')
    exact ⟨_, _, rfl, rfl⟩
  | scanned _ hs' hts =>
    obtain rfl := toUTF8_injective (hs.symm.trans hs')
    cases he.symm.trans hts

def twofold (bytes : ByteArray) : World :=
  ⟨⟨(· == "a.xor"), fun p => if p = "a.xor" then .ok bytes else .error .notFound⟩, bytes, [], none,
    .unbounded⟩

def strayCharacter : ByteArray := (String.ofList ['`']).toUTF8

def strayError : ScanError := ⟨.unexpectedCharacter '`', .start⟩

def brokenText : ByteArray := ⟨#[0xFF]⟩

theorem sameSetting_twofold (bytes bytes' : ByteArray) :
    SameSetting (twofold bytes) (twofold bytes') none := by
  refine ⟨rfl, rfl, rfl, fun p _ => rfl, fun p hp => ?_⟩
  have hnone : configFile? (twofold bytes).files none none = none := rfl
  cases hnone.symm.trans hp

/-- A bad character is reported in `<stdin>` and in the file, with a mark before it and without, and
bytes that are no text are those of `-` and of the file. -/
theorem sources_alike_twofold :
    "a.xor" ≠ stdinName ∧
      parse [] ["check", "-"] = .ok (withInput ⟨false, none, false, .check "-"⟩ stdinName) ∧
      parse [] ["check", "a.xor"] = .ok (withInput ⟨false, none, false, .check "-"⟩ "a.xor") ∧
      (∃ width rows,
        (Program.run (twofold strayCharacter) ["check", "-"]).stderr =
          scanReport "<stdin>" strayError width rows ∧
        (Program.run (twofold strayCharacter) ["check", "a.xor"]).stderr =
          scanReport "a.xor" strayError width rows) ∧
      ((Program.run (twofold brokenText) ["check", "-"]).stderr =
          "error: cannot read -: stream did not contain valid UTF-8\n" ∧
        (Program.run (twofold brokenText) ["check", "a.xor"]).stderr =
          "error: cannot read a.xor: stream did not contain valid UTF-8\n") ∧
      Program.run (twofold (mark ++ strayCharacter)) ["check", "-"] =
        Program.run (twofold strayCharacter) ["check", "-"] ∧
      Program.run (twofold (mark ++ strayCharacter)) ["check", "a.xor"] =
        Program.run (twofold strayCharacter) ["check", "a.xor"] := by
  have hfile : "a.xor" ≠ stdinName := by decide
  have hp : parse [] ["check", "-"] =
      .ok (withInput ⟨false, none, false, .check "-"⟩ stdinName) := rfl
  have hp' : parse [] ["check", "a.xor"] =
      .ok (withInput ⟨false, none, false, .check "-"⟩ "a.xor") := rfl
  have hload : ∀ bytes, Config.loadWith Config.read (twofold bytes).files none none =
      .ok .standard := fun bytes => rfl
  have hscan : tokenize ['`'] = .error strayError := by
    have hrun : Scan.run .start ['`'] = ⟨[], some strayError⟩ := by decide +kernel
    rw [tokenize, hrun]
  obtain ⟨hstray, hmarked⟩ := sources_alike (w := twofold strayCharacter) .standard hfile hp hp'
  obtain ⟨hstdin, hread⟩ :=
    hmarked ['`'] (by decide) (twofold (mark ++ strayCharacter)) (sameSetting_twofold _ _)
  have hbroken := (sources_alike (w := twofold brokenText) .standard hfile hp hp').1 _
    (sameSetting_twofold _ _) rfl
  refine ⟨hfile, hp, hp', ?_, ?_, ?_, ?_⟩
  · exact (hstray _ (sameSetting_twofold _ _) rfl).stderr.of_error rfl hscan
  · have hbad : decodeText brokenText = .error .invalidData := rfl
    exact hbroken.stderr.of_no_text (decodeText_error hbad).2
  · apply hstdin rfl rfl
  · apply hread rfl rfl

end XorScan.InputSources
