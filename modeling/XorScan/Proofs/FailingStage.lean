import Mathlib.Data.List.Find
import XorScan.Program
import XorScan.Proofs.CommandOutput

namespace XorScan.FailingStage

open Arguments CommandOutput

variable {files files' : Files} {user? path? : Option String} {w w' : World} {i : Invocation}
  {args : List String} {c : Config} {f : Failure} {reader : Config.TextReader} {r : Program.Readers}

def configPlaces (user? path? : Option String) : List String :=
  match path? with
  | some path => [path]
  | none => Config.candidates user?

/-- The file that a configuration is read from: the one that is named, even if it is missing, or the
first that is there. -/
def configFile? (files : Files) (user? path? : Option String) : Option String :=
  match path? with
  | some path => some path
  | none => (Config.candidates user?).find? files.contains

theorem load_eq_loadFrom (reader : Config.TextReader) (files : Files) (user? path? : Option String) :
    Config.loadWith reader files user? path? = match configFile? files user? path? with
      | some path => Config.loadFrom reader files path
      | none => .ok .standard := by
  cases path? <;> rfl

/-- Two collections of files have the same configuration: a file stands at a place for one in both
or in neither, and the file that is read is the same. -/
structure SameConfig (files files' : Files) (user? path? : Option String) : Prop where
  contains : ∀ p ∈ configPlaces user? path?, files'.contains p = files.contains p
  read : ∀ p, configFile? files user? path? = some p → files'.read p = files.read p

theorem SameConfig.configFile?_eq (h : SameConfig files files' user? path?) :
    configFile? files' user? path? = configFile? files user? path? := by
  cases path? with
  | some path => rfl
  | none => exact List.find?_congr h.contains

theorem mem_configPlaces {p : String} (h : configFile? files user? path? = some p) :
    p ∈ configPlaces user? path? := by
  cases path? with
  | some path =>
    cases h
    exact List.mem_singleton_self p
  | none => exact List.mem_of_find?_eq_some h

theorem SameConfig.load_eq (h : SameConfig files files' user? path?) :
    Config.loadWith reader files' user? path? = Config.loadWith reader files user? path? := by
  rw [load_eq_loadFrom, load_eq_loadFrom, h.configFile?_eq]
  cases hfile : configFile? files user? path? with
  | none => rfl
  | some p =>
    have hthere := h.contains p (mem_configPlaces hfile)
    simp only [Config.loadFrom, Files.readText, hthere, h.read p hfile]

theorem error_of_loadFrom {path : String} (h : Config.loadFrom reader files path = .error f) :
    f = .configMissing path ∨ (∃ detail, f = .configMalformed (path ++ ": " ++ detail)) ∨
      ∃ e, f = .io e := by
  unfold Config.loadFrom at h
  split at h
  · split at h
    next e _ => exact .inr (.inr ⟨e, (Except.error.inj h).symm⟩)
    next s _ =>
      split at h
      · cases h
      next detail _ => exact .inr (.inl ⟨detail, (Except.error.inj h).symm⟩)
  · exact .inl (Except.error.inj h).symm

theorem ne_scan_of_load (h : Config.loadWith reader files user? path? = .error f) (e : ScanError)
    (r : String) : f ≠ .scan e r := by
  rw [load_eq_loadFrom] at h
  split at h
  · obtain rfl | ⟨detail, rfl⟩ | ⟨e', rfl⟩ := error_of_loadFrom h <;> exact Failure.noConfusion
  · cases h

theorem report_in_context (h : ∀ e r, f ≠ .scan e r) (context : String) :
    ∃ rest, f.report [context] = "error: " ++ context ++ ": " ++ rest := by
  have hreport : f.report [context] =
      "error: " ++ ": ".intercalate (context :: f.message :: f.causes) ++ "\n" := by
    cases f with
    | scan e r => exact absurd rfl (h e r)
    | configMissing | configMalformed | unreadable | io | json => rfl
  rw [hreport, String.intercalate_cons_cons]
  exact ⟨": ".intercalate (f.message :: f.causes) ++ "\n", by simp only [String.append_assoc]⟩

theorem report_unreadable (input : String) (e : IoError) :
    (Failure.unreadable input e).report [] =
      "error: cannot read " ++ input ++ (": " ++ e.message ++ "\n") := by
  have hreport : (Failure.unreadable input e).report [] =
      "error: " ++ ": ".intercalate ["cannot read " ++ input, e.message] ++ "\n" := rfl
  have hstart : "error: cannot read " = "error: " ++ "cannot read " := rfl
  rw [hreport, hstart, String.intercalate_cons_cons, String.intercalate_singleton]
  simp only [String.append_assoc]

theorem report_of_unreadable (input : String) (e : IoError) :
    ∃ rest, (Failure.unreadable input e).report [] = "error: cannot read " ++ rest := by
  rw [report_unreadable, String.append_assoc]
  exact ⟨_, rfl⟩

/-- The run has failed, and has written a report and nothing else. -/
structure Reports (o : Outcome) (report : String) : Prop where
  status : o.status = 1
  stdout : o.stdout = ""
  stderr : o.stderr = report

structure Done (o : Outcome) (out : String) : Prop where
  status : o.status = 0
  stdout : o.stdout = out
  stderr : o.stderr = ""

/-- The command that an action and a configuration come to. A format that is given goes before the
configured one, and trivia are shown where neither side hides them. -/
inductive ComesTo (c : Config) : Action → Command → Prop
  | given (input : String) (format : OutputFormat) (noTrivia : Bool) :
    ComesTo c (.tokens input (some format) noTrivia) (.tokens input format (c.trivia && !noTrivia))
  | configured (input : String) (noTrivia : Bool) :
    ComesTo c (.tokens input none noTrivia) (.tokens input c.format (c.trivia && !noTrivia))
  | check (input : String) : ComesTo c (.check input) (.check input)

theorem comesTo_command (c : Config) (a : Action) : ComesTo c a (Program.command c a) := by
  cases a with
  | tokens input format? noTrivia =>
    cases format? with
    | none => exact .configured input noTrivia
    | some format => exact .given input format noTrivia
  | check input => exact .check input

theorem input_command (c : Config) (a : Action) : (Program.command c a).input = a.input := by
  cases a <;> rfl

theorem run_of_parse (h : r.arguments w.environment args = .ok i) :
    Program.runWith r w args = Program.carryOut r w i := by
  rw [Program.runWith, h]

theorem carryOut_of_error (h : Config.loadWith r.config w.files w.userConfig? i.config? = .error f) :
    Program.carryOut r w i = ⟨1, "", f.report ["failed to load configuration"], false⟩ := by
  rw [Program.carryOut, h]

def told (failure? : Option Failure) : String := (failure?.map (Failure.report [])).getD ""

theorem carryOut_of_run {res : String × Option Failure}
    (h : Config.loadWith r.config w.files w.userConfig? i.config? = .ok c)
    (hrun : (Program.command c i.action).run w.files w.stdin w.stdout = res) :
    (Program.carryOut r w i).status = (if res.2.isSome then 1 else 0) ∧
      (Program.carryOut r w i).stdout = res.1 ∧ (Program.carryOut r w i).stderr = told res.2 := by
  simp only [Program.carryOut, h, hrun]
  obtain ⟨out, _ | f⟩ := res
  · exact ⟨rfl, rfl, rfl⟩
  · exact ⟨rfl, rfl, rfl⟩

theorem done_of_run {out : String}
    (h : Config.loadWith r.config w.files w.userConfig? i.config? = .ok c)
    (hrun : (Program.command c i.action).run w.files w.stdin w.stdout = (out, none)) :
    Done (Program.carryOut r w i) out := by
  obtain ⟨hstatus, hout, herr⟩ := carryOut_of_run h hrun
  exact ⟨hstatus, hout, herr⟩

theorem reports_of_run (h : Config.loadWith r.config w.files w.userConfig? i.config? = .ok c)
    (hrun : (Program.command c i.action).run w.files w.stdin w.stdout = ("", some f)) :
    Reports (Program.carryOut r w i) (f.report []) := by
  obtain ⟨hstatus, hout, herr⟩ := carryOut_of_run h hrun
  exact ⟨hstatus, hout, herr⟩

theorem config_decides (h : Config.loadWith r.config w.files w.userConfig? i.config? = .error f)
    (hp : r.arguments w.environment args = .ok i) (he : w'.environment = w.environment)
    (hu : w'.userConfig? = w.userConfig?)
    (hs : SameConfig w.files w'.files w.userConfig? i.config?) :
    Program.runWith r w' args = Program.runWith r w args := by
  have hload : Config.loadWith r.config w'.files w'.userConfig? i.config? = .error f := by
    rw [hu, hs.load_eq, h]
  rw [run_of_parse hp, run_of_parse (he ▸ hp), carryOut_of_error h, carryOut_of_error hload]

theorem reports_of_load (h : Config.loadWith r.config w.files w.userConfig? i.config? = .error f) :
    ∃ rest, Reports (Program.carryOut r w i) ("error: failed to load configuration: " ++ rest) := by
  obtain ⟨rest, hrest⟩ := report_in_context (ne_scan_of_load h) "failed to load configuration"
  rw [carryOut_of_error h, hrest]
  exact ⟨rest, rfl, rfl, rfl⟩

theorem reports_of_no_text (h : Config.loadWith r.config w.files w.userConfig? i.config? = .ok c)
    (hno : ∀ s, inputBytes w.files w.stdin i.action.input ≠ .ok (String.ofList s).toUTF8) :
    ∃ rest, Reports (Program.carryOut r w i) ("error: cannot read " ++ rest) := by
  obtain ⟨e, he⟩ := readSource_of_no_text hno
  obtain ⟨rest, hrest⟩ := report_of_unreadable i.action.input e
  have hread : readSource w.files w.stdin (Program.command c i.action).input =
      .error (.unreadable i.action.input e) := by
    rw [input_command, he]
  have hreports := reports_of_run h (run_of_unreadable w.stdout hread)
  rw [hrest] at hreports
  exact ⟨rest, hreports⟩

theorem reports_of_scan_error {s : List Char} {e : ScanError}
    (h : Config.loadWith r.config w.files w.userConfig? i.config? = .ok c)
    (hs : inputBytes w.files w.stdin i.action.input = .ok (String.ofList s).toUTF8)
    (he : tokenize (dropMark s) = .error e) :
    Reports (Program.carryOut r w i)
      (e.diagnostic.render ⟨inputName i.action.input, dropMark s⟩) := by
  rw [← input_command c i.action] at hs ⊢
  exact reports_of_run h (run_of_error w.stdout (readSource_of_text hs) he)

theorem done_of_tokenize {s : List Char} {ts : List Token}
    (h : Config.loadWith r.config w.files w.userConfig? i.config? = .ok c) (hd : w.stdout = .unbounded)
    (hs : inputBytes w.files w.stdin i.action.input = .ok (String.ofList s).toUTF8)
    (hts : tokenize (dropMark s) = .ok ts) :
    ∃ cmd, ComesTo c i.action cmd ∧
      cmd.run w.files w.stdin .unbounded = (output cmd ts, none) ∧
      Done (Program.carryOut r w i) (output cmd ts) := by
  rw [← input_command c i.action] at hs
  have hrun := run_of_loads ⟨readSource_of_text hs, hts⟩
  exact ⟨_, comesTo_command c i.action, hrun, done_of_run h (hd ▸ hrun)⟩

/-- The first stage of a run that fails decides how it ends: the configuration is loaded, the input
is read, the source is scanned, and only then something is written. -/
theorem first_failure_decides (r : Program.Readers) (hp : r.arguments w.environment args = .ok i)
    (hd : w.stdout = .unbounded) :
    (∀ f, Config.loadWith r.config w.files w.userConfig? i.config? = .error f →
      (∃ rest, Reports (Program.runWith r w args) ("error: failed to load configuration: " ++ rest)) ∧
      (Program.runWith r w args).logged = false ∧
      ∀ w' : World, w'.environment = w.environment → w'.userConfig? = w.userConfig? →
        SameConfig w.files w'.files w.userConfig? i.config? →
        Program.runWith r w' args = Program.runWith r w args) ∧
    ∀ c, Config.loadWith r.config w.files w.userConfig? i.config? = .ok c →
      ((∀ s, inputBytes w.files w.stdin i.action.input ≠ .ok (String.ofList s).toUTF8) →
        ∃ rest, Reports (Program.runWith r w args) ("error: cannot read " ++ rest)) ∧
      ∀ s, inputBytes w.files w.stdin i.action.input = .ok (String.ofList s).toUTF8 →
        (∀ e, tokenize (dropMark s) = .error e →
          Reports (Program.runWith r w args)
            (e.diagnostic.render ⟨inputName i.action.input, dropMark s⟩)) ∧
        ∀ ts, tokenize (dropMark s) = .ok ts → ∃ cmd, ComesTo c i.action cmd ∧
          cmd.run w.files w.stdin .unbounded = (output cmd ts, none) ∧
          Done (Program.runWith r w args) (output cmd ts) := by
  have hrun := run_of_parse hp
  constructor
  · intro f hf
    refine ⟨hrun ▸ reports_of_load hf, ?_, fun w' he hu hs => config_decides hf hp he hu hs⟩
    rw [hrun, carryOut_of_error hf]
  · intro c hc
    rw [hrun]
    refine ⟨reports_of_no_text hc, fun s hs => ⟨fun e he => ?_, fun ts hts => ?_⟩⟩
    · exact reports_of_scan_error hc hs he
    · exact done_of_tokenize hc hd hs hts

def bareWorld (s : List Char) : World :=
  ⟨noFiles, (String.ofList s).toUTF8, [], none, .unbounded⟩

def missingConfig : List String := ["check", "-", "--config", "none.toml"]

def configuredWorld (config s : List Char) : World :=
  { bareWorld s with files := ⟨(· == Config.fileName), fun p =>
      if p = Config.fileName then .ok (String.ofList config).toUTF8 else .error .notFound⟩ }

def jsonConfig : List Char := "[tokens]\nformat = \"json\"".toList

theorem load_configuredWorld (config s : List Char) :
    Config.loadWith Config.read (configuredWorld config s).files none none =
      match Config.parse? config with
      | some c => .ok c
      | none => .error (.configMalformed "xorc.toml: TOML parse error") := by
  have htext : (configuredWorld config s).files.readText Config.fileName = .ok config :=
    decodeText_eq_ok_iff.mpr rfl
  have hthere : (configuredWorld config s).files.contains Config.fileName = true := rfl
  have hfile : configFile? (configuredWorld config s).files none none = some Config.fileName := rfl
  rw [load_eq_loadFrom, hfile]
  dsimp only
  rw [Config.loadFrom, if_pos hthere, htext]
  simp only [Config.read]
  cases Config.parse? config with
  | none => rfl
  | some c => rfl

/-- A configuration that is missing, malformed or read, and an input that cannot be read, does not
scan, or scans. -/
theorem first_failure_decides_bare :
    parse (bareWorld ['`']).environment missingConfig =
        .ok ⟨false, some "none.toml", false, .check "-"⟩ ∧
      parse (bareWorld ['`']).environment ["check", "-"] = .ok ⟨false, none, false, .check "-"⟩ ∧
      (bareWorld ['`']).stdout = .unbounded ∧
      (∃ rest, Reports (Program.run (bareWorld ['`']) missingConfig)
        ("error: failed to load configuration: " ++ rest)) ∧
      Program.run (bareWorld []) missingConfig = Program.run (bareWorld ['`']) missingConfig ∧
      (∃ rest, Reports (Program.run (configuredWorld ['='] ['`']) ["check", "-"])
        ("error: failed to load configuration: " ++ rest)) ∧
      (∃ rest, Reports (Program.run (bareWorld ['`']) ["check", "a.xor"])
        ("error: cannot read " ++ rest)) ∧
      Reports (Program.run (bareWorld ['`']) ["check", "-"])
        ((ScanError.mk (.unexpectedCharacter '`') .start).diagnostic.render
          ⟨"<stdin>", ['`']⟩) ∧
      Done (Program.run (bareWorld []) ["check", "-"]) "ok: 1 tokens (0 significant)\n" ∧
      Done (Program.run (configuredWorld jsonConfig []) ["tokens", "-"])
        (output (.tokens "-" .json true) [Token.endOfInput .start]) := by
  have hp : parse (bareWorld ['`']).environment missingConfig =
      .ok ⟨false, some "none.toml", false, .check "-"⟩ := rfl
  have hp' : parse (bareWorld ['`']).environment ["check", "-"] =
      .ok ⟨false, none, false, .check "-"⟩ := rfl
  obtain ⟨hreport, -, hsame⟩ :=
    (first_failure_decides .standard hp rfl).1 (.configMissing "none.toml") rfl
  have hconfig : SameConfig (bareWorld ['`']).files (bareWorld []).files none "none.toml" :=
    ⟨fun _ _ => rfl, fun _ _ => rfl⟩
  have hmalformed := load_configuredWorld ['='] ['`']
  have hbroken : Config.parse? ['='] = none := by decide +kernel
  rw [hbroken] at hmalformed
  obtain ⟨hbad, -, -⟩ :=
    (first_failure_decides (w := configuredWorld ['='] ['`']) .standard hp' rfl).1 _ hmalformed
  have hfile : parse (bareWorld ['`']).environment ["check", "a.xor"] =
      .ok ⟨false, none, false, .check "a.xor"⟩ := rfl
  have hread : ∀ s, inputBytes noFiles (bareWorld ['`']).stdin "a.xor" ≠
      .ok (String.ofList s).toUTF8 := by
    intro s h
    cases h
  have hscan : tokenize ['`'] = .error ⟨.unexpectedCharacter '`', .start⟩ := by
    have hrun : Scan.run .start ['`'] = ⟨[], some ⟨.unexpectedCharacter '`', .start⟩⟩ := by
      decide +kernel
    rw [tokenize, hrun]
  have hempty : tokenize [] = .ok [Token.endOfInput .start] := by simp [tokenize, Scan.run]
  have hstage := ((first_failure_decides .standard hp' rfl).2 .standard rfl).2 ['`'] rfl
  have hdone := ((first_failure_decides (w := bareWorld []) .standard hp' rfl).2 .standard rfl).2 [] rfl
  obtain ⟨cmd, hcmd, -, hcheck⟩ := hdone.2 _ hempty
  cases hcmd
  have hjson := load_configuredWorld jsonConfig []
  have hsettings : Config.parse? jsonConfig = some ⟨false, true, .json⟩ := by decide +kernel
  rw [hsettings] at hjson
  have hargs : parse (configuredWorld jsonConfig []).environment ["tokens", "-"] =
      .ok ⟨false, none, false, .tokens "-" none false⟩ := rfl
  obtain ⟨cmd, hcmd, -, hlisted⟩ :=
    (((first_failure_decides .standard hargs rfl).2 _ hjson).2 [] rfl).2 _ hempty
  cases hcmd
  exact ⟨hp, hp', rfl, hreport, hsame (bareWorld []) rfl rfl hconfig, hbad,
    ((first_failure_decides .standard hfile rfl).2 .standard rfl).1 hread, hstage.1 _ hscan, hcheck,
    hlisted⟩

end XorScan.FailingStage
