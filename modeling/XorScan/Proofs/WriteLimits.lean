import XorScan.Proofs.CommandOutput

namespace XorScan.WriteLimits

open CommandOutput

variable {d : Device} {ps qs : List Piece} {written : String}

/-- A device that does not take all pieces together stops before one of them, and fails as it does. -/
theorem write_of_not_takes (hw : d.takes written.utf8ByteSize = true)
    (h : ¬ d.takes (written ++ whole ps).utf8ByteSize = true) :
    ∃ us p vs, ps = us ++ p :: vs ∧ d.takes (written ++ whole us).utf8ByteSize = true ∧
      ¬ d.takes (written ++ whole us ++ p.text).utf8ByteSize = true ∧
      d.write written ps = (written ++ whole us, some (p.failure d.refusal)) := by
  induction ps generalizing written with
  | nil =>
    rw [whole_nil, String.append_empty] at h
    exact absurd hw h
  | cons p ps ih =>
    by_cases hp : d.takes (written ++ p.text).utf8ByteSize = true
    · rw [whole_cons, ← String.append_assoc] at h
      obtain ⟨us, q, vs, rfl, hus, hq, hwrite⟩ := ih hp h
      refine ⟨p :: us, q, vs, rfl, ?_, ?_, ?_⟩
      · rwa [whole_cons, ← String.append_assoc]
      · rwa [whole_cons, ← String.append_assoc]
      · rw [whole_cons, ← String.append_assoc, Device.write, if_pos hp, hwrite]
    · refine ⟨[], p, ps, rfl, ?_, ?_, ?_⟩
      · rwa [whole_nil, String.append_empty]
      · rwa [whole_nil, String.append_empty]
      · rw [whole_nil, String.append_empty, Device.write, if_neg hp]

/-- The same output in other writes. Each piece is cut into parts, which fail as the piece does. -/
inductive Divides : List Piece → List Piece → Prop
  | nil : Divides [] []
  | cons {p : Piece} {parts ps qs : List Piece} (htext : whole parts = p.text)
      (hfail : ∀ q ∈ parts, q.failure = p.failure) (h : Divides ps qs) :
      Divides (p :: ps) (parts ++ qs)

theorem Divides.refl (ps : List Piece) : Divides ps ps := by
  induction ps with
  | nil => exact .nil
  | cons p ps ih =>
    have hfail : ∀ q ∈ [p], q.failure = p.failure := by
      intro q hq
      rw [List.mem_singleton.mp hq]
    exact .cons (by simp) hfail ih

theorem Divides.whole_eq (h : Divides ps qs) : whole qs = whole ps := by
  induction h with
  | nil => rfl
  | cons htext hfail h ih => rw [whole_append, whole_cons, htext, ih]

theorem write_append_of_takes (h : d.takes (written ++ whole ps).utf8ByteSize = true)
    (qs : List Piece) : d.write written (ps ++ qs) = d.write (written ++ whole ps) qs := by
  induction ps generalizing written with
  | nil => simp
  | cons p ps ih =>
    rw [whole_cons, ← String.append_assoc] at h ⊢
    rw [List.cons_append, Device.write, if_pos (takes_of_takes_append h), ih h]

theorem write_append_of_fails {w : String} {f : Failure} (h : d.write written ps = (w, some f))
    (qs : List Piece) : d.write written (ps ++ qs) = (w, some f) := by
  induction ps generalizing written with
  | nil => cases h
  | cons p ps ih =>
    rw [Device.write] at h
    rw [List.cons_append, Device.write]
    split at h
    next hp => rw [if_pos hp, ih h]
    next hp => rw [if_neg hp, h]

/-- However finely an output is written, it fails in the same way. -/
theorem write_divided (h : Divides ps qs) (hw : d.takes written.utf8ByteSize = true) :
    (d.write written qs).2 = (d.write written ps).2 := by
  induction h generalizing written with
  | nil => rfl
  | @cons p parts ps qs htext hfail h ih =>
    rw [Device.write]
    by_cases hp : d.takes (written ++ p.text).utf8ByteSize = true
    · rw [if_pos hp, write_append_of_takes (by rwa [htext]), htext, ih hp]
    · rw [← htext] at hp
      obtain ⟨us, q, vs, rfl, -, -, hwrite⟩ := write_of_not_takes hw hp
      rw [write_append_of_fails hwrite, hfail q (by simp), ← htext, if_neg hp]

theorem write_eq_whole_iff (hw : d.takes written.utf8ByteSize = true) :
    d.write written ps = (written ++ whole ps, none) ↔
      d.takes (written ++ whole ps).utf8ByteSize = true := by
  refine ⟨fun h => ?_, write_of_takes⟩
  by_contra hn
  obtain ⟨us, p, vs, -, -, -, hwrite⟩ := write_of_not_takes hw hn
  cases congrArg Prod.snd (h.symm.trans hwrite)

/-- What it means that a command cannot write an output of `size` bytes, of which `n` are taken. Only
the text of a JSON listing, without the line feed behind it, fails in a way of its own. -/
inductive Refuses (size n : Nat) : Command → (IoError → Failure) → Prop
  | check {input : String} : Refuses size n (.check input) .io
  | text {input : String} {trivia : Bool} : Refuses size n (.tokens input .text trivia) .io
  | json {input : String} {trivia : Bool} (h : n < size - 1) :
    Refuses size n (.tokens input .json trivia) .json
  | lineFeed {input : String} {trivia : Bool} (h : n = size - 1) :
    Refuses size n (.tokens input .json trivia) .io

structure Ends (c : Command) (w : String) (n : Nat) (cause : IoError)
    (r : String × Option Failure) : Prop where
  done : r = (w, none) ↔ w.utf8ByteSize ≤ n
  refused : n < w.utf8ByteSize →
    ∃ failure, Refuses w.utf8ByteSize n c failure ∧ r.2 = some (failure cause)

theorem takes_iff {n k : Nat} {cause : IoError} :
    (Device.mk (some n) cause).takes k = true ↔ k ≤ n := by
  simp [Device.takes]

theorem takes_empty (d : Device) : d.takes "".utf8ByteSize = true := by
  cases h : d.capacity? <;> simp [Device.takes, h]

theorem failure_of_write {n : Nat} {cause : IoError} {f : IoError → Failure}
    (hf : ∀ p ∈ ps, p.failure = f) (hn : n < (whole ps).utf8ByteSize) :
    (Device.write ⟨some n, cause⟩ "" ps).2 = some (f cause) := by
  have htakes : ¬ (Device.mk (some n) cause).takes ("" ++ whole ps).utf8ByteSize = true := by
    rw [String.empty_append, takes_iff]
    exact hn.not_ge
  obtain ⟨us, p, vs, rfl, -, -, hwrite⟩ := write_of_not_takes (takes_empty _) htakes
  rw [hwrite, hf p (by simp)]

theorem refuses_json (input : String) (trivia : Bool) (ts : List Token) {n : Nat} {cause : IoError}
    (hn : n < (output (.tokens input .json trivia) ts).utf8ByteSize) :
    ∃ failure, Refuses (output (.tokens input .json trivia) ts).utf8ByteSize n
        (.tokens input .json trivia) failure ∧
      (Device.write ⟨some n, cause⟩ "" ((Command.tokens input .json trivia).pieces ts)).2 =
        some (failure cause) := by
  generalize hlisting : Json.prettyArray ((ts.filter (·.isShown trivia)).map Token.record) = listing
  have hpieces : (Command.tokens input .json trivia).pieces ts =
      [⟨listing, .json⟩, ⟨"\n", .io⟩] := by
    rw [← hlisting]
    rfl
  have hline : "\n".utf8ByteSize = 1 := rfl
  have hsize : (output (.tokens input .json trivia) ts).utf8ByteSize =
      listing.utf8ByteSize + 1 := by
    rw [output_json, hlisting, String.utf8ByteSize_append, hline]
  rw [hsize] at hn ⊢
  rw [hpieces]
  obtain hlt | heq := Nat.lt_or_eq_of_le (Nat.lt_succ_iff.mp hn)
  · exact ⟨.json, .json hlt, by simp [Device.write, takes_iff, hlt.not_ge]⟩
  · have hfits : listing.utf8ByteSize ≤ n := heq.ge
    have hover : ¬ listing.utf8ByteSize + 1 ≤ n := by omega
    refine ⟨.io, .lineFeed heq, ?_⟩
    simp only [Device.write, takes_iff, String.empty_append, String.utf8ByteSize_append, hline,
      if_pos hfits, if_neg hover]

theorem refuses_of_write (c : Command) (ts : List Token) {n : Nat} {cause : IoError}
    (hn : n < (output c ts).utf8ByteSize) :
    ∃ failure, Refuses (output c ts).utf8ByteSize n c failure ∧
      (Device.write ⟨some n, cause⟩ "" (c.pieces ts)).2 = some (failure cause) := by
  cases c with
  | check input => exact ⟨.io, .check, failure_of_write (by simp [Command.pieces]) hn⟩
  | tokens input format trivia =>
    cases format with
    | text =>
      refine ⟨.io, .text, failure_of_write (fun p hp => ?_) hn⟩
      obtain ⟨t, -, rfl⟩ := List.mem_map.mp hp
      rfl
    | json => exact refuses_json input trivia ts hn

theorem ends_of_divides (c : Command) (ts : List Token) (n : Nat) (cause : IoError)
    (h : Divides (c.pieces ts) qs) :
    Ends c (output c ts) n cause (Device.write ⟨some n, cause⟩ "" qs) := by
  constructor
  · have hdone : Device.write ⟨some n, cause⟩ "" qs = ("" ++ whole qs, none) ↔ _ :=
      write_eq_whole_iff (takes_empty _)
    rwa [String.empty_append, h.whole_eq, takes_iff] at hdone
  · intro hn
    rw [write_divided h (takes_empty _)]
    exact refuses_of_write c ts hn

/-- An input that cannot be read or scanned fails as such, whatever the output takes. Otherwise the
output is written if all of it is taken, and the failure tells which part of it was refused, however
finely it is written. -/
theorem limited_run_ends (files : Files) (stdin : ByteArray) (c : Command) :
    ((∀ s, inputBytes files stdin c.input ≠ .ok (String.ofList s).toUTF8) →
      ∃ e, ∀ d, c.run files stdin d = ("", some (.unreadable c.input e))) ∧
    ∀ s, inputBytes files stdin c.input = .ok (String.ofList s).toUTF8 →
      (∀ e, tokenize (dropMark s) = .error e → ∀ d, c.run files stdin d =
        ("", some (.scan e (e.diagnostic.render ⟨inputName c.input, dropMark s⟩)))) ∧
      ∀ ts, tokenize (dropMark s) = .ok ts → ∃ w,
        c.run files stdin .unbounded = (w, none) ∧
        ∀ n cause, Ends c w n cause (c.run files stdin ⟨some n, cause⟩) ∧
          ∀ writes, Divides (c.pieces ts) writes →
            Ends c w n cause (Device.write ⟨some n, cause⟩ "" writes) := by
  constructor
  · intro hno
    obtain ⟨e, he⟩ := readSource_of_no_text hno
    exact ⟨e, fun d => run_of_unreadable d he⟩
  · intro s hs
    have hread := readSource_of_text hs
    refine ⟨fun e he d => run_of_error d hread he, fun ts hts => ?_⟩
    have hloads : Loads files stdin c.input _ ts := ⟨hread, hts⟩
    refine ⟨_, run_of_loads hloads, fun n cause => ⟨?_, fun writes h => ?_⟩⟩
    · rw [run_eq_write hloads]
      exact ends_of_divides c ts n cause (.refl _)
    · exact ends_of_divides c ts n cause h

/-- The listing of an empty source: with one byte missing the line feed is refused, and with two the
text before it. -/
theorem limited_run_ends_listing :
    inputBytes noFiles .empty "-" = .ok (String.ofList []).toUTF8 ∧
      tokenize (dropMark []) = .ok [Token.endOfInput .start] ∧
      (∃ w, w.utf8ByteSize = 123 ∧
        (Command.tokens "-" .json true).run noFiles .empty .unbounded = (w, none) ∧
        (Command.tokens "-" .json true).run noFiles .empty ⟨some 123, .noSpace⟩ = (w, none)) ∧
      ((Command.tokens "-" .json true).run noFiles .empty ⟨some 122, .noSpace⟩).2 =
        some (.io .noSpace) ∧
      ((Command.tokens "-" .json true).run noFiles .empty ⟨some 121, .noSpace⟩).2 =
        some (.json .noSpace) ∧
      ∃ e, ∀ d, (Command.check "a").run noFiles .empty d = ("", some (.unreadable "a" e)) := by
  have hs : inputBytes noFiles .empty "-" = .ok (String.ofList []).toUTF8 := rfl
  have hts : tokenize (dropMark []) = .ok [Token.endOfInput .start] := by
    simp [dropMark, tokenize, Scan.run]
  have hsize : (output (.tokens "-" .json true) [Token.endOfInput .start]).utf8ByteSize = 123 := by
    decide +kernel
  have hread : ∀ s, inputBytes noFiles .empty "a" ≠ .ok (String.ofList s).toUTF8 := by
    intro s h
    cases h
  obtain ⟨w, hw, hends⟩ :=
    ((limited_run_ends noFiles .empty (.tokens "-" .json true)).2 [] hs).2 _ hts
  have hrun := run_of_loads (c := .tokens "-" .json true) ⟨readSource_of_text hs, hts⟩
  obtain rfl : w = _ := (Prod.mk.inj (hw.symm.trans hrun)).1
  refine ⟨hs, hts, ⟨_, hsize, hw, ?_⟩, ?_, ?_, (limited_run_ends _ _ _).1 hread⟩
  · exact (hends 123 .noSpace).1.done.mpr hsize.le
  · obtain ⟨failure, hrefuses, hfailure⟩ := (hends 122 .noSpace).1.refused (by omega)
    cases hrefuses with
    | json h => omega
    | lineFeed => exact hfailure
  · obtain ⟨failure, hrefuses, hfailure⟩ := (hends 121 .noSpace).1.refused (by omega)
    cases hrefuses with
    | json => exact hfailure
    | lineFeed h => omega

end XorScan.WriteLimits
