import XorScan.CursorScan
import XorScan.Scanner
import XorScan.Proofs.CursorPlacement
import XorScan.Proofs.EscapeForms
import XorScan.Proofs.Lifecycle

namespace XorScan.CursorScanning

open Cursor CursorPlacement CursorScan

/-- How scanning through a cursor tells what stands at the front of the rest: with the cursor behind
the lexeme, or with the place of the fault. -/
def told (k : Cursor) : Except Refusal Lexeme → Except Stop (Kind × Cursor)
  | .ok l => .ok (l.kind, k.skip (l.tail + 1))
  | .error f => .error (.refused ⟨f.fault, k.position.advanceAll (k.rest.take f.distance)⟩)

variable {k : Cursor} {c : Char} {r : List Char}

theorem skip_skip (k : Cursor) (m n : Nat) : (k.skip m).skip n = k.skip (m + n) := by
  simp only [skip, List.drop_drop, ← Position.advanceAll_append, List.take_add]

theorem startsWith_iff {t : List Char} : k.startsWith t = true ↔ t <+: k.rest :=
  List.isPrefixOf_iff_prefix

theorem covering_byteLength (w t : List Char) :
    covering (Text.byteLength w) (w ++ t) = w.length := by
  induction w with
  | nil => cases t <;> rfl
  | cons c w ih =>
    obtain ⟨n, hn, -, hsub⟩ := Text.exists_succ_byteLength c w
    rw [hn, List.cons_append, covering, hsub, ih, List.length_cons]

theorem skipBytes_passed {w : List Char} (h : w <+: k.rest) :
    k.skipBytes (Text.byteLength w) = k.skip w.length := by
  obtain ⟨t, ht⟩ := h
  rw [skipBytes, ← ht, covering_byteLength]

theorem newline_eq (hr : k.rest = c :: r) (hc : c = '\n' ∨ c = '\r') :
    newline k.position k = told k (Lexeme.newline c r) := by
  obtain rfl | rfl := hc
  · simp [newline, eatText, eat, startsWith, current, hr, Lexeme.newline, told]
  · by_cases hd : r.head? = some '\n'
    · obtain ⟨t, rfl⟩ := List.head?_eq_some_iff.mp hd
      simp [newline, eatText, startsWith, hr, Lexeme.newline, told]
    · have hno : ¬ ['\r', '\n'] <+: k.rest := by
        rw [hr, List.cons_prefix_cons]
        rintro ⟨-, t, ht⟩
        simp [← ht] at hd
      simp [newline, eatText, eat, mt startsWith_iff.mp hno, current, hr, Lexeme.newline, hd, told,
        refuse]

theorem symbol_eq (hr : k.rest = c :: r) : symbol k.position c k = told k (Lexeme.symbol c r) := by
  have hfind : (Symbol.family c).find? (fun y => k.startsWith y.spelling) =
      Symbol.longest? (c :: r) := by
    simp only [startsWith, hr]
    exact SymbolTable.find?_family c r
  rw [symbol, Lexeme.symbol, hfind]
  cases hy : Symbol.longest? (c :: r) with
  | none => simp [told, refuse]
  | some y =>
    have hp := SymbolTable.longest?_prefix hy
    have hlen := List.length_pos_of_ne_nil (SymbolTable.spelling_ne_nil y)
    rw [← hr] at hp
    simp only [told]
    rw [skipBytes_passed hp, Nat.sub_add_cancel hlen]

theorem rest_of_bump_none {k' : Cursor} (h : k.bump = (none, k')) : k.rest = [] :=
  List.head?_eq_none_iff.mp (congrArg Prod.fst h)

theorem of_bump_some {k' : Cursor} (h : k.bump = (some c, k')) :
    ∃ r, k.rest = c :: r ∧ k' = k.skip 1 := by
  obtain ⟨r, hr⟩ := List.head?_eq_some_iff.mp (congrArg Prod.fst h)
  exact ⟨r, hr, (congrArg Prod.snd h).symm⟩

theorem rest_skip_one (hr : k.rest = c :: r) : (k.skip 1).rest = r := by
  rw [skip, hr]
  rfl

theorem pair_prefix_iff {x y c : Char} {r : List Char} :
    [x, y] <+: c :: r ↔ c = x ∧ r.head? = some y := by
  rw [List.cons_prefix_cons, List.head?_eq_some_iff, eq_comm]
  simp [List.IsPrefix, eq_comm]

theorem of_eatText {t : List Char} {b : Bool} {k' : Cursor} (h : k.eatText t = (b, k')) :
    (b = true ↔ t <+: k.rest) ∧ (b = true → k' = k.skip t.length) := by
  rw [eatText] at h
  split at h
  next ht =>
    cases h
    exact ⟨iff_of_true rfl (startsWith_iff.mp ht), fun _ => rfl⟩
  next ht =>
    cases h
    exact ⟨iff_of_false Bool.false_ne_true (mt startsWith_iff.mpr ht), fun h => absurd h Bool.false_ne_true⟩

theorem toLineEnd_eq (k : Cursor) : toLineEnd k = k.skip (Lexeme.lineLength k.rest) := by
  fun_induction toLineEnd k with
  | case1 k k' h =>
    rw [rest_of_bump_none h]
    rfl
  | case2 k c k' h hc =>
    obtain ⟨r, hr, -⟩ := of_bump_some h
    rw [startsWith_iff, hr, pair_prefix_iff] at hc
    rw [hr, Lexeme.lineLength, if_pos hc]
    rfl
  | case3 k c k' h hc ih =>
    obtain ⟨r, hr, rfl⟩ := of_bump_some h
    rw [startsWith_iff, hr, pair_prefix_iff] at hc
    rw [ih, rest_skip_one hr, skip_skip, hr, Lexeme.lineLength, if_neg hc, Nat.add_comm]

theorem pastClosing?_eq (k : Cursor) :
    pastClosing? k = (Lexeme.closingLength? k.rest).map k.skip := by
  fun_induction pastClosing? k with
  | case1 k k' h =>
    obtain ⟨hp, hk⟩ := of_eatText h
    obtain ⟨t, ht⟩ := hp.mp rfl
    rw [hk rfl, ← ht, List.cons_append, Lexeme.closingLength?, if_pos ⟨rfl, rfl⟩]
    rfl
  | case2 k k' h k'' h' =>
    rw [rest_of_bump_none h']
    rfl
  | case3 k k' h c k'' h' ih =>
    obtain ⟨r, hr, rfl⟩ := of_bump_some h'
    have hp := mt (of_eatText h).1.mpr Bool.false_ne_true
    rw [hr, pair_prefix_iff] at hp
    rw [ih, rest_skip_one hr, hr, Lexeme.closingLength?, if_neg hp, Option.map_map]
    congr 1
    funext n
    rw [Function.comp_apply, skip_skip, Nat.add_comm]

theorem slash_eq (hr : k.rest = '/' :: r) : slash k.position k = told k (Lexeme.slash '/' r) := by
  have hstart : ∀ x, k.startsWith ['/', x] = true ↔ r.head? = some x := by
    intro x
    rw [startsWith_iff, hr, pair_prefix_iff, and_iff_right rfl]
  have hskip : (k.skip 2).rest = r.drop 1 := by rw [skip, hr, List.drop_succ_cons]
  unfold slash
  split
  next h =>
    obtain ⟨t, rfl⟩ := List.head?_eq_some_iff.mp ((hstart '/').mp h)
    have he : k.eatText ['/', '/'] = (true, k.skip 2) := if_pos h
    have hl : Lexeme.slash '/' ('/' :: t) =
        .ok ⟨.trivia .comment, Lexeme.lineLength t + 1⟩ := by
      simp [Lexeme.slash, Lexeme.lineLength]
    rw [he, toLineEnd_eq, hskip, hl, told, skip_skip, Nat.add_comm 2]
    rfl
  next hline =>
    split
    next h =>
      obtain ⟨b, rfl⟩ := List.head?_eq_some_iff.mp ((hstart '*').mp h)
      have he : k.eatText ['/', '*'] = (true, k.skip 2) := if_pos h
      rw [he, pastClosing?_eq, hskip, List.drop_one, List.tail_cons]
      cases hn : Lexeme.closingLength? b with
      | none => simp [Lexeme.slash, hn, told, refuse]
      | some n =>
        have hl : Lexeme.slash '/' ('*' :: b) = .ok ⟨.trivia .comment, n + 1⟩ := by
          simp [Lexeme.slash, hn]
        simp only [Option.map_some, hl, told, skip_skip, Nat.add_comm 2]
    next hblock =>
      have hsymbol : Lexeme.slash '/' r = Lexeme.symbol '/' r := by
        unfold Lexeme.slash
        split
        · exact absurd ((hstart '/').mpr rfl) hline
        · exact absurd ((hstart '*').mpr rfl) hblock
        · rfl
      rw [hsymbol]
      exact symbol_eq hr

def Cuts (k : Cursor) : Prop := ∀ n, (k.skip n).sliceFrom? k.offset = some (k.rest.take n)

theorem takeWhile_rest {p : Char → Bool} (hr : k.rest = c :: r) (hc : p c = true) :
    k.rest.takeWhile p = c :: r.takeWhile p := by
  rw [hr, List.takeWhile_cons_of_pos hc]

theorem word_eq (hcut : Cuts k) (hr : k.rest = c :: r) (hc : CharClass.isIdentContinue c = true) :
    word k.position k = told k (.ok (Lexeme.word c r)) := by
  have hw := takeWhile_rest hr hc
  have htake := List.prefix_iff_eq_take.mp (List.takeWhile_prefix CharClass.isIdentContinue (l := k.rest))
  have hslice := hcut (k.rest.takeWhile CharClass.isIdentContinue).length
  rw [← htake, hw] at hslice
  simp only [word, eatWhile, hw, offset] at hslice ⊢
  rw [hslice]
  rfl

theorem number_eq (hr : k.rest = c :: r) (hc : c.isDigit = true) :
    .ok (number k) = told k (.ok (Lexeme.number r)) := by
  have hw := takeWhile_rest hr hc
  have hrest : (k.skip ((r.takeWhile Char.isDigit).length + 1)).rest =
      r.drop (r.takeWhile Char.isDigit).length := by
    rw [skip, hr, List.drop_succ_cons]
  have hk : (k.eatWhile Char.isDigit).2 = k.skip ((r.takeWhile Char.isDigit).length + 1) := by
    rw [eatWhile, hw]
    rfl
  rw [number, hk, current, peek, bump, hrest, Lexeme.number]
  generalize (r.takeWhile Char.isDigit).length = n at hrest ⊢
  generalize r.drop n = t at hrest ⊢
  dsimp only
  split
  next h =>
    obtain ⟨u, rfl⟩ := List.head?_eq_some_iff.mp h.1
    cases u with
    | nil => simp at h
    | cons d f =>
      have hd : d.isDigit = true := h.2
      have hskip := rest_skip_one hrest
      rw [eatWhile, hskip]
      simp only [hd, if_true, told, skip_skip, Nat.add_assoc, Nat.add_comm 1]
  next h =>
    split
    next d f =>
      have hd : ¬ d.isDigit = true := fun hd => h ⟨rfl, hd⟩
      rw [if_neg hd]
      rfl
    · rfl

section Literals

variable (start : Position) (d : Char)

theorem skipBytes_escape {v : Char} {n : Nat} (hr : k.rest = '\\' :: r)
    (h : Escape.decode r = .ok (v, n)) : k.skipBytes (1 + n) = k.skip (n + 1) := by
  obtain ⟨e, t, rfl, rfl, he⟩ := EscapeGrammar.decode_eq_ok_iff.mp h
  have hbytes : Text.byteLength ('\\' :: e) = 1 + e.length := by
    rw [Text.byteLength_cons, StoredText.byteLength_ascii (EscapeForms.isEscape_ascii he)]
    rfl
  have hp : '\\' :: e <+: k.rest := ⟨t, hr.symm⟩
  rw [← hbytes, skipBytes_passed hp, List.length_cons]

theorem pastEscape_eq (hr : k.rest = '\\' :: r) :
    pastEscape start d k =
      if LiteralBody.atLineEnd r then refuse start (.unterminatedLiteral d)
      else
        match Escape.decode r with
        | .error e => .error (.refused ⟨.invalidEscape e, k.position⟩)
        | .ok (_, n) => .ok (k.skip (n + 1)) := by
  have hline : (k.peek 1 = none ∨ k.peek 1 = some '\n') ↔ LiteralBody.atLineEnd r = true := by
    cases r <;> simp [peek, hr, LiteralBody.atLineEnd]
  have hcut : Text.slice? k.rest 1 (Text.byteLength k.rest) = some r := by
    have h := Text.slice?_append ['\\'] r []
    rw [List.append_nil] at h
    rw [hr]
    exact h
  unfold pastEscape
  simp only [hline, hcut]
  split
  · rfl
  · cases h : Escape.decode r with
    | error e => rfl
    | ok vn =>
      obtain ⟨v, n⟩ := vn
      exact congrArg Except.ok (skipBytes_escape hr h)

def toldBody (k : Cursor) (n : Nat) (b : LiteralBody) : Except Stop (Nat × Cursor) :=
  match b.ending with
  | .cutOff => refuse start (.unterminatedLiteral d)
  | .badEscape e =>
    .error (.refused ⟨.invalidEscape e, k.position.advanceAll (k.rest.take b.size)⟩)
  | .closed => .ok (n + b.value.length, k.skip (b.size + 1))

theorem toldBody_push (k : Cursor) (n m : Nat) (v : Char) (b : LiteralBody) :
    toldBody start d k n (b.push v m) = toldBody start d (k.skip m) (n + 1) b := by
  obtain ⟨value, size, ending⟩ := b
  cases ending with
  | cutOff => rfl
  | badEscape e =>
    simp only [toldBody, LiteralBody.push, skip, ← Position.advanceAll_append, Nat.add_comm size,
      List.take_add]
  | closed =>
    simp only [toldBody, LiteralBody.push, skip_skip, List.length_cons, Nat.add_assoc,
      Nat.add_comm 1, Nat.add_left_comm size]

theorem pastUnits_eq (k : Cursor) (n : Nat) :
    pastUnits start d k n = toldBody start d k n (LiteralBody.read d k.rest) := by
  fun_induction pastUnits start d k n with
  | case1 k n k' h =>
    rw [rest_of_bump_none h, LiteralBody.read]
    rfl
  | case2 k n k' h =>
    obtain ⟨r, hr, -⟩ := of_bump_some h
    rw [hr, LiteralBody.read, if_pos rfl]
    rfl
  | case3 k n k' h hn =>
    obtain ⟨r, hr, rfl⟩ := of_bump_some h
    rw [hr, LiteralBody.read, if_neg hn, if_pos rfl]
    rfl
  | case4 k n k' e he h hn hd =>
    obtain ⟨r, hr, -⟩ := of_bump_some h
    rw [pastEscape_eq start d hr] at he
    split at he
    next hl =>
      cases he
      rw [hr, LiteralBody.read, if_neg hn, if_neg hd, if_pos rfl, if_pos hl]
      rfl
    next hl =>
      split at he
      next hdec =>
        cases he
        rw [hr, LiteralBody.read, if_neg hn, if_neg hd, if_pos rfl, if_neg hl, hdec]
        rfl
      · cases he
  | case5 k n k' k'' he h hn hd ih =>
    obtain ⟨r, hr, -⟩ := of_bump_some h
    rw [pastEscape_eq start d hr] at he
    split at he
    · cases he
    next hl =>
      split at he
      · cases he
      next v m hdec =>
        cases he
        rw [ih, hr, LiteralBody.read, if_neg hn, if_neg hd, if_pos rfl, if_neg hl, hdec,
          toldBody_push, skip, hr, List.drop_succ_cons]
  | case6 k n c k' h hn hd hb ih =>
    obtain ⟨r, hr, rfl⟩ := of_bump_some h
    rw [ih, hr, LiteralBody.read, if_neg hn, if_neg hd, if_neg hb, toldBody_push, rest_skip_one hr]

end Literals

theorem quoted_eq (hr : k.rest = c :: r) :
    quoted k.position c k = told k (Lexeme.quoted c r) := by
  rw [quoted, bump, pastUnits_eq, rest_skip_one hr, Lexeme.quoted]
  obtain ⟨value, size, ending⟩ := LiteralBody.read c r
  cases ending with
  | cutOff => rfl
  | badEscape e =>
    simp only [toldBody, told, skip, hr, ← Position.advanceAll_append]
    rfl
  | closed =>
    simp only [toldBody, skip_skip, Nat.zero_add, Nat.add_comm 1]
    simp only [bind, Except.bind]
    split
    · rfl
    · split <;> rfl

theorem isIdentContinue_of_isIdentStart (h : CharClass.isIdentStart c = true) :
    CharClass.isIdentContinue c = true := by
  simp only [CharClass.isIdentStart, CharClass.isIdentContinue, Char.isAlphanum, Bool.or_eq_true] at h ⊢
  exact h.imp_left .inl

theorem lexeme_eq (hcut : Cuts k) (hr : k.rest = c :: r) :
    lexeme k.position c k = told k (Lexeme.front c r) := by
  unfold lexeme Lexeme.front
  cases hc : CharClass.of c with
  | newline => exact newline_eq hr (CharClass.of_eq_newline_iff.mp hc)
  | space | tab | other => rfl
  | slash =>
    obtain rfl := CharClass.of_eq_slash_iff.mp hc
    exact slash_eq hr
  | symbol => exact symbol_eq hr
  | identStart =>
    have hstart := CharClass.of_eq_identStart_iff.mp hc
    exact word_eq hcut hr (isIdentContinue_of_isIdentStart hstart)
  | digit => exact number_eq hr (CharClass.of_eq_digit_iff.mp hc)
  | quote => exact quoted_eq hr

theorem cuts_of_passes {s a : List Char} (h : Passes (ofSource s) a k) : Cuts k := by
  intro n
  obtain ⟨w, hw, -, hslice⟩ := (onward_of_passes h (passes_skip k n)).slice
  rw [hslice, List.append_cancel_right (hw.symm.trans (passes_skip k n).rest)]

/-- Where a cursor stands on a character, scanning gives the token at the front of its rest. -/
theorem scan_eq (hcut : Cuts k) (hr : k.rest = c :: r) :
    scan k = match Token.front k.position c r with
      | .ok t => .ok (t, k.skip t.text.length)
      | .error e => .error (.refused e) := by
  have hcurrent : k.current = some c := by rw [current, hr]; rfl
  rw [scan, hcurrent]
  dsimp only
  rw [lexeme_eq hcut hr, Token.front]
  cases hl : Lexeme.front c r with
  | error f =>
    rw [told, hr]
    rfl
  | ok l =>
    have htail := Lexeme.front_tail_le hl
    have hlen : (c :: r.take l.tail).length = l.tail + 1 := by
      rw [List.length_cons, List.length_take, Nat.min_eq_left htail]
    have hslice := hcut (l.tail + 1)
    rw [hr, List.take_succ_cons, offset] at hslice
    simp only [told, bind, Except.bind, hslice, cut, hlen]
    rfl

section Scanners

open Lifecycle

def cursor (sc : Scanner) : Cursor := ⟨sc.source, sc.rest, sc.position⟩

variable {sc : Scanner} {s a : List Char}

theorem cursor_skip {t : Token} (h : t.text <+: sc.rest) :
    cursor (sc.skip t) = (cursor sc).skip t.text.length := by
  have htake := List.prefix_iff_eq_take.mp h
  rw [cursor, Scanner.skip, Cursor.skip, cursor, ← htake]

theorem prefix_of_front {p : Position} {t : Token} (h : Token.front p c r = .ok t) :
    t.text <+: c :: r :=
  ⟨_, (Tokenization.step_of_front h).2.2.symm⟩

theorem scan_cursor (hcut : Cuts (cursor sc)) (h : sc.stage = .scanning) :
    scan (cursor sc) = match sc.next with
      | (.ok t, sc') => .ok (t, cursor sc')
      | (.error e, _) => .error (.refused e) := by
  obtain ⟨source, rest, p, stage⟩ := sc
  subst h
  cases rest with
  | nil => rfl
  | cons c r =>
    rw [scan_eq hcut rfl]
    simp only [Scanner.next, cursor]
    cases hf : Token.front p c r with
    | error e => rfl
    | ok t =>
      have hskip := @cursor_skip ⟨source, c :: r, p, .scanning⟩ t (prefix_of_front hf)
      exact congrArg (fun k => Except.ok (t, k)) hskip.symm

theorem passes_next (h : Passes (ofSource s) a (cursor sc)) (hst : sc.stage = .scanning) :
    ∃ b, Passes (ofSource s) b (cursor sc.next.2) := by
  obtain ⟨source, rest, p, stage⟩ := sc
  subst hst
  cases rest with
  | nil => exact ⟨a, h⟩
  | cons c r =>
    simp only [Scanner.next]
    cases hf : Token.front p c r with
    | error e => exact ⟨a, h⟩
    | ok t =>
      rw [cursor_skip (prefix_of_front hf)]
      exact ⟨_, h.trans (passes_skip _ _)⟩

theorem passes_reached (h : Passes (ofSource s) a (cursor sc)) (cs : List Call) :
    ∃ b, Passes (ofSource s) b (cursor (Lifecycle.reached sc cs)) := by
  induction cs generalizing sc a with
  | nil => exact ⟨a, h⟩
  | cons c cs ih =>
    rw [Lifecycle.reached]
    by_cases hst : sc.stage = .scanning
    · rw [ask_scanning hst]
      obtain ⟨b, hb⟩ := passes_next h hst
      exact ih hb
    · rw [ask_stopped hst]
      exact ih h

/-- Whatever calls have been made, a scanner that has not stopped hands out what scanning through
its cursor gives, and no range of bytes that is cut out on the way ends inside a character. -/
theorem scan_reached (s : List Char) (cs : List Call)
    (h : (Lifecycle.reached (.ofSource s) cs).stage = .scanning) :
    scan (cursor (Lifecycle.reached (.ofSource s) cs)) =
      match (Lifecycle.reached (.ofSource s) cs).next with
      | (.ok t, sc) => .ok (t, cursor sc)
      | (.error e, _) => .error (.refused e) := by
  obtain ⟨a, ha⟩ := @passes_reached (.ofSource s) s [] (Passes.refl _) cs
  exact scan_cursor (cuts_of_passes ha) h

end Scanners

end XorScan.CursorScanning
