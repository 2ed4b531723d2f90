import XorScan.Proofs.ListingRows

namespace XorScan.PrintedTokens

open CharRun ListingRows QuotedText

/-- What a dump prints of a token, in a row or in a record. -/
structure Entry where
  kind : String
  offset : Nat
  text : List Char
  deriving DecidableEq

namespace Entry

def ofToken (t : Token) : Entry := ⟨t.kind.name, t.position.offset, t.text⟩

def endOffset (e : Entry) : Nat := e.offset + Text.byteLength e.text

end Entry

def word (row : List Char) : List Char × List Char :=
  let r := row.dropWhile (· = ' ')
  (r.takeWhile (· ≠ ' '), r.dropWhile (· ≠ ' '))

def unquote? : List Char → Option (List Char)
  | '"' :: r => if r.getLast? = some '"' then (Escape.unescape r.dropLast).toOption else none
  | _ => none

def decimal? (w : List Char) : Option Nat :=
  if w ≠ [] ∧ w.all Char.isDigit then some (Nat.ofDigitChars 10 w 0) else none

/-- Reads a row of a text dump: the place, the offset and the kind are words, and the text is quoted. -/
def readRow? (row : List Char) : Option Entry := do
  let behindPlace := (word row).2
  let behindOffset := (word behindPlace).2
  let behindKind := (word behindOffset).2
  let offset ← decimal? (word behindPlace).1
  let text ← unquote? (behindKind.dropWhile (· = ' '))
  return ⟨String.ofList (word behindOffset).1, offset, text⟩

def text? : Json.Scalar → Option (List Char)
  | .text s => some s
  | .number _ => none

def number? : Json.Scalar → Option Nat
  | .text _ => none
  | .number n => some n

def readRecord? (r : Json.Record) : Option Entry := do
  let kind ← (r.lookup "kind").bind text?
  let offset ← (r.lookup "offset").bind number?
  let text ← (r.lookup "text").bind text?
  return ⟨String.ofList kind, offset, text⟩

variable {w b t : List Char}

structure IsWord (w : List Char) : Prop where
  ne_nil : w ≠ []
  solid : ∀ c ∈ w, c ≠ ' '

theorem word_eq (hw : IsWord w) (hb : ∀ c ∈ b, c = ' ') (ht : t.head? = some ' ') :
    word (b ++ (w ++ t)) = (w, t) := by
  obtain ⟨c, v, rfl⟩ := List.exists_cons_of_ne_nil hw.ne_nil
  have hc : c ≠ ' ' := hw.solid c List.mem_cons_self
  have hblank : IsRun (· = ' ') b (c :: v ++ t) := by
    refine ⟨fun d hd => by simpa using hb d hd, ?_⟩
    rintro d ⟨⟩
    simpa using hc
  have hword : IsRun (· ≠ ' ') (c :: v) t := by
    refine ⟨fun d hd => by simpa using hw.solid d hd, ?_⟩
    intro d hd
    obtain rfl := Option.some.inj (ht.symm.trans hd)
    rfl
  rw [word, hblank.dropWhile, hword.takeWhile, hword.dropWhile]

theorem isWord_toDigits (n : Nat) : IsWord (Nat.toDigits 10 n) := by
  refine ⟨Nat.toDigits_ne_nil, ?_⟩
  rintro c hc rfl
  have hd := Nat.isDigit_of_mem_toDigits (by decide) (by decide) hc
  simp at hd

theorem isWord_append (hw : IsWord w) (hb : ∀ c ∈ b, c ≠ ' ') : IsWord (w ++ b) := by
  refine ⟨by simp [hw.ne_nil], ?_⟩
  intro c hc
  exact (List.mem_append.mp hc).elim (hw.solid c) (hb c)

theorem isWord_display (p : Position) : IsWord p.display.toList := by
  have hd : p.display.toList =
      Nat.toDigits 10 (p.line + 1) ++ ([':'] ++ Nat.toDigits 10 (p.column + 1)) := by
    have h : p.display = toString (p.line + 1) ++ ":" ++ toString (p.column + 1) := rfl
    simp [h]
  rw [hd]
  have hcolon : IsWord [':'] := ⟨by simp, by simp⟩
  apply isWord_append (isWord_toDigits _)
  exact (isWord_append hcolon (isWord_toDigits _).solid).solid

theorem isWord_name (k : Kind) : IsWord k.name.toList := by
  have h : k.name.toList ≠ [] ∧ k.name.toList.all (· ≠ ' ') = true := by
    cases k with
    | trivia t => cases t <;> decide +kernel
    | endOfInput => decide +kernel
    | symbol y => cases y <;> decide +kernel
    | keyword w => cases w <;> decide +kernel
    | primitive p => cases p <;> decide +kernel
    | literal l => cases l <;> decide +kernel
  refine ⟨h.1, ?_⟩
  intro c hc
  simpa using List.all_eq_true.mp h.2 c hc

theorem decimal?_toDigits (n : Nat) : decimal? (Nat.toDigits 10 n) = some n := by
  have hdigits : (Nat.toDigits 10 n).all Char.isDigit = true := by
    rw [List.all_eq_true]
    intro c hc
    exact Nat.isDigit_of_mem_toDigits (by decide) (by decide) hc
  rw [decimal?, if_pos ⟨Nat.toDigits_ne_nil, hdigits⟩, Nat.ofDigitChars_ten_toDigits]

theorem unquote?_quote (s : List Char) : unquote? (Text.quote s).toList = some s := by
  rw [toList_quote, List.cons_append, unquote?]
  simp [LiteralValues.unescape_of_body (isBody_quoted s), Except.toOption]

theorem blanks_append (m n : Nat) (x : List Char) :
    List.replicate m ' ' ++ (List.replicate n ' ' ++ x) = List.replicate (m + n) ' ' ++ x := by
  rw [← List.append_assoc, List.replicate_append_replicate]

theorem exists_blanks (t : Token) : ∃ m n, t.row.toList =
    t.position.display.toList ++ (List.replicate (m + 1) ' ' ++
      (Nat.toDigits 10 t.position.offset ++ (List.replicate 2 ' ' ++
        (t.kind.name.toList ++ (List.replicate (n + 1) ' ' ++ (Text.quote t.text).toList))))) := by
  let m := 9 - t.position.display.length
  let n := 6 - (String.ofList (Nat.toDigits 10 t.position.offset)).length
  refine ⟨m + n, 18 - t.kind.name.length, ?_⟩
  have hblank : " ".toList = List.replicate 1 ' ' := rfl
  have hblanks : "  ".toList = List.replicate 2 ' ' := rfl
  have hm : m + n + 1 = m + (1 + n) := by omega
  rw [row_eq, rowHead, Text.padRight, Text.padLeft, Text.padRight, hm,
    Nat.toString_eq_ofList_toDigits]
  simp only [String.toList_append, String.toList_ofList, hblank, hblanks, List.append_assoc,
    blanks_append, m, n]

theorem readRow?_row (t : Token) : readRow? t.row.toList = some (.ofToken t) := by
  obtain ⟨m, n, hrow⟩ := exists_blanks t
  have hblank : ∀ k, ∀ c ∈ List.replicate k ' ', c = ' ' := fun k c hc =>
    List.eq_of_mem_replicate hc
  have hquote : ∀ k, (List.replicate k ' ' ++ (Text.quote t.text).toList).dropWhile (· = ' ') =
      (Text.quote t.text).toList := by
    intro k
    apply IsRun.dropWhile
    refine ⟨fun c hc => by simpa using hblank k c hc, ?_⟩
    rw [toList_quote]
    rintro c ⟨⟩
    rfl
  have hplace := word_eq (b := []) (isWord_display t.position) (by simp)
    (t := List.replicate (m + 1) ' ' ++ (Nat.toDigits 10 t.position.offset ++
      (List.replicate 2 ' ' ++ (t.kind.name.toList ++ (List.replicate (n + 1) ' ' ++
        (Text.quote t.text).toList))))) rfl
  rw [List.nil_append] at hplace
  have hnumber := word_eq (isWord_toDigits t.position.offset) (hblank (m + 1))
    (t := List.replicate 2 ' ' ++ (t.kind.name.toList ++ (List.replicate (n + 1) ' ' ++
      (Text.quote t.text).toList))) rfl
  have hkind := word_eq (isWord_name t.kind) (hblank 2)
    (t := List.replicate (n + 1) ' ' ++ (Text.quote t.text).toList) rfl
  rw [readRow?, hrow]
  simp only [hplace, hnumber, hkind, hquote, unquote?_quote, String.ofList_toList, decimal?_toDigits]
  rfl

theorem readRecord?_record (t : Token) : readRecord? t.record = some (.ofToken t) := by
  have hkind : t.record.lookup "kind" = some (.text t.kind.name.toList) := rfl
  have htext : t.record.lookup "text" = some (.text t.text) := rfl
  have hoffset : t.record.lookup "offset" = some (.number t.position.offset) := by
    rw [Token.record]
    cases t.value? <;> rfl
  rw [readRecord?, hkind, htext, hoffset]
  simp [text?, number?, Entry.ofToken]

end XorScan.PrintedTokens
