import XorScan.Proofs.ListingRows

namespace XorScan.CommandOutput

open ListingRows

variable {files : Files} {stdin : ByteArray} {input : String} {f : SourceFile} {ts : List Token}
  {d : Device} {ps : List Piece} {written : String}

/-- The input of a command is read as the file `f`, and that scans to the tokens `ts`. -/
structure Loads (files : Files) (stdin : ByteArray) (input : String) (f : SourceFile)
    (ts : List Token) : Prop where
  read : readSource files stdin input = .ok f
  scans : tokenize f.content = .ok ts

theorem decodeText_eq_ok_iff {bytes : ByteArray} {s : List Char} :
    decodeText bytes = .ok s ↔ bytes = (String.ofList s).toUTF8 := by
  unfold decodeText String.fromUTF8?
  constructor
  · intro h
    split at h
    next t ht =>
      cases h
      split at ht
      · cases ht
        rw [String.ofList_toList]
        rfl
      · cases ht
    · cases h
  · rintro rfl
    have hv := (String.ofList s).isValidUTF8
    rw [String.toUTF8, dif_pos hv]
    exact congrArg Except.ok String.toList_ofList

def inputBytes (files : Files) (stdin : ByteArray) (input : String) : Except IoError ByteArray :=
  if input = stdinName then .ok stdin else files.read input

def inputName (input : String) : String := if input = stdinName then "<stdin>" else input

def noFiles : Files := ⟨fun _ => false, fun _ => .error .notFound⟩

theorem readSource_eq (files : Files) (stdin : ByteArray) (input : String) :
    readSource files stdin input = match inputBytes files stdin input with
      | .ok bytes => match decodeText bytes with
        | .ok s => .ok ⟨inputName input, dropMark s⟩
        | .error e => .error (.unreadable input e)
      | .error e => .error (.unreadable input e) := by
  unfold readSource inputBytes inputName
  split_ifs with h
  · rfl
  · rw [Files.readText]
    cases files.read input <;> rfl

theorem readSource_of_text {s : List Char}
    (h : inputBytes files stdin input = .ok (String.ofList s).toUTF8) :
    readSource files stdin input = .ok ⟨inputName input, dropMark s⟩ := by
  rw [readSource_eq, h]
  dsimp only
  rw [decodeText_eq_ok_iff.mpr rfl]

/-- An input without bytes, or with bytes that are no text, is unreadable. -/
theorem readSource_of_no_text
    (h : ∀ s, inputBytes files stdin input ≠ .ok (String.ofList s).toUTF8) :
    ∃ e, readSource files stdin input = .error (.unreadable input e) := by
  rw [readSource_eq]
  cases hb : inputBytes files stdin input with
  | error e => exact ⟨e, rfl⟩
  | ok bytes =>
    dsimp only
    cases hd : decodeText bytes with
    | error e => exact ⟨e, rfl⟩
    | ok s =>
      rw [decodeText_eq_ok_iff.mp hd] at hb
      exact absurd hb (h s)

theorem scanInput_of_read (h : readSource files stdin input = .ok f) :
    scanInput files stdin input = (tokenize f.content).mapError (Failure.ofScanError f) := by
  simp only [scanInput, h, bind, Except.bind]
  cases tokenize f.content <;> rfl

def whole (ps : List Piece) : String := String.join (ps.map Piece.text)

@[simp] theorem whole_nil : whole [] = "" := rfl

@[simp] theorem whole_cons (p : Piece) (ps : List Piece) : whole (p :: ps) = p.text ++ whole ps := by
  simp [whole]

theorem whole_append (ps qs : List Piece) : whole (ps ++ qs) = whole ps ++ whole qs := by
  simp [whole]

theorem takes_of_le {m n : Nat} (h : m ≤ n) (hn : d.takes n = true) : d.takes m = true := by
  unfold Device.takes at hn ⊢
  cases hc : d.capacity? with
  | none => rfl
  | some k =>
    rw [hc] at hn
    have hk : n ≤ k := by simpa using hn
    simpa using h.trans hk

theorem takes_of_takes_append {a b : String} (h : d.takes (a ++ b).utf8ByteSize = true) :
    d.takes a.utf8ByteSize = true :=
  takes_of_le (by simp) h

theorem write_of_takes (h : d.takes (written ++ whole ps).utf8ByteSize = true) :
    d.write written ps = (written ++ whole ps, none) := by
  induction ps generalizing written with
  | nil => simp [Device.write]
  | cons p ps ih =>
    rw [whole_cons, ← String.append_assoc] at h ⊢
    rw [Device.write, if_pos (takes_of_takes_append h), ih h]

def output (c : Command) (ts : List Token) : String := String.join ((c.pieces ts).map Piece.text)

theorem run_eq (files : Files) (stdin : ByteArray) (d : Device) (c : Command) :
    c.run files stdin d = match scanInput files stdin c.input with
      | .ok ts => d.write "" (c.pieces ts)
      | .error f => ("", some f) := by
  cases c with
  | tokens input format trivia =>
    simp only [Command.run, Command.runTokens, Command.input]
    cases scanInput files stdin input <;> rfl
  | check input =>
    simp only [Command.run, Command.runCheck, Command.input]
    cases scanInput files stdin input with
    | error f => rfl
    | ok ts =>
      dsimp only
      obtain ⟨out, _ | f⟩ := d.write "" ((Command.check input).pieces ts)
      · rfl
      · rfl

theorem run_eq_write {c : Command} (h : Loads files stdin c.input f ts) (d : Device) :
    c.run files stdin d = d.write "" (c.pieces ts) := by
  rw [run_eq, scanInput_of_read h.read, h.scans]
  rfl

theorem run_of_loads {c : Command} (h : Loads files stdin c.input f ts) :
    c.run files stdin .unbounded = (output c ts, none) := by
  have hwrite : Device.unbounded.write "" (c.pieces ts) = ("" ++ output c ts, none) :=
    write_of_takes rfl
  rw [run_eq_write h, hwrite, String.empty_append]

theorem run_of_error {c : Command} {e : ScanError} (d : Device)
    (hr : readSource files stdin c.input = .ok f) (hs : tokenize f.content = .error e) :
    c.run files stdin d = ("", some (.scan e (e.diagnostic.render f))) := by
  rw [run_eq, scanInput_of_read hr, hs]
  rfl

theorem run_of_unreadable {c : Command} {g : Failure} (d : Device)
    (h : readSource files stdin c.input = .error g) : c.run files stdin d = ("", some g) := by
  rw [run_eq, scanInput, h]
  rfl

theorem output_text (input : String) (trivia : Bool) (ts : List Token) :
    output (.tokens input .text trivia) ts =
      listing ((ts.filter (·.isShown trivia)).map Token.row) := by
  simp [output, Command.pieces, listing, Function.comp_def]

theorem output_json (input : String) (trivia : Bool) (ts : List Token) :
    output (.tokens input .json trivia) ts =
      Json.prettyArray ((ts.filter (·.isShown trivia)).map Token.record) ++ "\n" := by
  simp [output, Command.pieces]

theorem output_check (input : String) (ts : List Token) :
    output (.check input) ts = (Summary.ofTokens ts).display ++ "\n" := by
  simp [output, Command.pieces]

end XorScan.CommandOutput
