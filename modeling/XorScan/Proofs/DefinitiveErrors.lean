import XorScan.Proofs.Continuation
import XorScan.Proofs.EscapeErrors
import XorScan.Proofs.Failures

namespace XorScan.DefinitiveErrors

open CharRun CommentExtent Continuation EscapeErrors EscapeGrammar Failures LexicalGrammar LiteralUnits
  LongestLexeme MaximalMunch Refusals Tokenization

/-- A fault that no text behind it can undo. Reading is refused at a character, and `r` stands
behind it. -/
inductive Settled (r : List Char) : Fault → Prop
  | unexpectedCharacter {c : Char} (h : c = '\r' → r ≠ []) : Settled r (.unexpectedCharacter c)
  | invalidCharLiteral : Settled r .invalidCharLiteral
  | unknownEscape {c : Char} : Settled r (.invalidEscape (.unknown c))
  | invalidCodepoint {v : Nat} : Settled r (.invalidEscape (.invalidCodepoint v))

def Open (z : List Char) : Prop :=
  ∀ ls c r f, Munches z ls (c :: r) → Lexeme.front c r = .error f → ¬ Settled r f.fault

theorem step_ne_refused {c : Char} {r w : List Char} {k : Kind} {f : Refusal}
    (h : Step (c :: r) k w) : Lexeme.front c r ≠ .error f := by
  obtain ⟨l, hl, -⟩ := step_iff_front.mp h
  rw [hl]
  rintro ⟨⟩

theorem open_nil : Open [] := by
  intro ls c r f hm
  have h := hm.eq_append
  simp at h

theorem open_of_step {w y : List Char} {k : Kind} (h : Step (w ++ y) k w) (hy : Open y) :
    Open (w ++ y) := by
  intro ls c r f hm hf
  generalize hz : w ++ y = z at h hm
  cases hm with
  | done => exact absurd hf (step_ne_refused h)
  | @step w' r' _ k' ls hs hr =>
    obtain ⟨-, rfl⟩ := h.unique hs
    obtain rfl := List.append_cancel_left hz
    exact hy ls c r f hr hf

theorem open_of_lexeme {w : List Char} {k : Kind} (h : IsLexeme k w) : Open w := by
  have hs := open_of_step (y := []) (by rw [List.append_nil]; exact step_self h) open_nil
  rwa [List.append_nil] at hs

theorem open_of_refused {c : Char} {r : List Char} {f : Refusal} (h : Refused c r f)
    (hf : ¬ Settled r f.fault) : Open (c :: r) := by
  intro ls c' r' f' hm hf'
  have hr := front_of_refused h
  generalize hz : c :: r = z at hm
  cases hm with
  | done =>
    cases hz
    rw [hr] at hf'
    cases hf'
    exact hf
  | step hs =>
    rw [← hz] at hs
    exact absurd hr (step_ne_refused hs)

def Unfinished (e : LiteralEnd) : Prop :=
  e = .cutOff ∨ e = .badEscape .malformedHex ∨ e = .badEscape .malformedUnicode

theorem halts_of_cut_unit {d : Char} {u x : List Char} {v : Char} (h : IsUnit d u v)
    (hp : x <+: u) (hx : x ≠ u) : ∃ e, Halts d x e ∧ Unfinished e := by
  cases x with
  | nil => exact ⟨_, .textEnd, .inl rfl⟩
  | cons c x =>
    cases h with
    | plain =>
      obtain ⟨rfl, hnil⟩ := List.cons_prefix_cons.mp hp
      exact absurd (congrArg _ (List.prefix_nil.mp hnil)) hx
    | @escape e _ h =>
      obtain ⟨rfl, hpe⟩ := List.cons_prefix_cons.mp hp
      by_cases hn : x = []
      · exact ⟨_, .openEscape (.inl hn), .inl rfl⟩
      · have hline : ¬ ∃ y, x = '\n' :: y := by
          rintro ⟨y, rfl⟩
          obtain ⟨t, rfl⟩ := hpe
          obtain ⟨_, he⟩ := decode_nil_or_lineFeed (.inr ⟨y ++ t, rfl⟩)
          rw [List.cons_append, he] at h
          cases h
        have hne : ¬ (x = [] ∨ ∃ y, x = '\n' :: y) := not_or.mpr ⟨hn, hline⟩
        obtain rfl | he | he := decode_cut (isEscape_iff.mpr h) hpe hn
        · exact absurd rfl hx
        · exact ⟨_, .badEscape hne he, .inr (.inl rfl)⟩
        · exact ⟨_, .badEscape hne he, .inr (.inr rfl)⟩

theorem halts_of_cut_body {d : Char} {s vs x : List Char} (h : IsBody d s vs) (hp : x <+: s) :
    ∃ b ws t e, x = b ++ t ∧ IsBody d b ws ∧ Halts d t e ∧ Unfinished e := by
  induction h generalizing x with
  | nil => exact ⟨[], [], x, _, rfl, .nil, List.prefix_nil.mp hp ▸ .textEnd, .inl rfl⟩
  | @cons u s vs v hu hs ih =>
    by_cases hux : u <+: x
    · obtain ⟨y, rfl⟩ := hux
      obtain ⟨b, ws, t, e, rfl, hb, ht, he⟩ := ih ((List.prefix_append_right_inj u).mp hp)
      exact ⟨u ++ b, v :: ws, t, e, by rw [List.append_assoc], .cons hu hb, ht, he⟩
    · have hxu := (List.prefix_or_prefix_of_prefix hp (List.prefix_append u s)).resolve_right hux
      obtain ⟨e, ht, he⟩ := halts_of_cut_unit hu hxu fun hxu => hux (hxu ▸ List.prefix_rfl)
      exact ⟨[], [], x, e, rfl, .nil, ht, he⟩

theorem open_of_cut_body {d : Char} {s vs x : List Char} (hd : CharClass.of d = .quote)
    (h : IsBody d s vs) (hp : x <+: s) : Open (d :: x) := by
  obtain ⟨b, ws, t, e, rfl, hb, ht, he⟩ := halts_of_cut_body h hp
  obtain rfl | rfl | rfl := he
  · exact open_of_refused (.openLiteral hd hb ht) (by rintro ⟨⟩)
  · exact open_of_refused (.badEscape hd hb ht) (by rintro ⟨⟩)
  · exact open_of_refused (.badEscape hd hb ht) (by rintro ⟨⟩)

theorem open_of_cut_quoted {d : Char} {s vs x : List Char} {k : Kind}
    (hd : CharClass.of d = .quote) (h : IsBody d s vs) (hk : IsLexeme k (d :: s ++ [d]))
    (hp : x <+: s ++ [d]) : Open (d :: x) := by
  obtain rfl | hp := List.prefix_concat_iff.mp hp
  · exact open_of_lexeme hk
  · exact open_of_cut_body hd h hp

theorem step_number_point {c : Char} {w : List Char} (h : ∀ x ∈ c :: w, x.isDigit) :
    Step (c :: w ++ ['.']) (.literal .number) (c :: w) := by
  have hc : CharClass.of c = .digit := CharClass.of_eq_digit_iff.mpr (h c List.mem_cons_self)
  have hr : IsRun Char.isDigit w ['.'] := by
    refine ⟨fun x hx => h x (List.mem_cons_of_mem c hx), ?_⟩
    rintro x ⟨⟩
    decide
  have hn : Lexeme.front c (w ++ ['.']) = .ok ⟨.literal .number, w.length⟩ := by
    rw [Lexeme.front, hc]
    exact congrArg _ (number_of_no_point hr (by simp))
  exact step_iff_front.mpr ⟨_, hn, rfl, by simp⟩

theorem open_of_cut_decimal {c d : Char} {w f x : List Char} (h : ∀ y ∈ c :: w, y.isDigit)
    (hf : ∀ y ∈ d :: f, y.isDigit) (hp : x <+: w ++ '.' :: d :: f) : Open (c :: x) := by
  obtain ⟨y, hy⟩ := hp
  obtain ⟨a, rfl, -⟩ | ⟨a, rfl, ha⟩ := List.append_eq_append_iff.mp hy
  · have hx : c :: x <+: c :: (x ++ a) := List.prefix_append (c :: x) a
    exact open_of_lexeme (.number fun y hy => h y (hx.subset hy))
  · cases a with
    | nil =>
      rw [List.append_nil]
      exact open_of_lexeme (.number h)
    | cons p a =>
      simp only [List.cons_append, List.cons.injEq] at ha
      obtain ⟨rfl, ha⟩ := ha
      cases a with
      | nil => exact open_of_step (step_number_point h) (open_of_lexeme (.symbol .dot))
      | cons e a =>
        have ha : e :: a <+: d :: f := ⟨y, ha.symm⟩
        exact open_of_lexeme (.decimal h fun y hy => hf y (ha.subset hy))

theorem open_of_cut_blockComment {w x : List Char} (hw : Closes w) (hp : x <+: w) :
    Open ('/' :: '*' :: x) := by
  have hne : w ≠ [] := hw.1.ne_nil (by simp)
  rw [← List.dropLast_concat_getLast hne, List.prefix_concat_iff] at hp
  obtain rfl | hp := hp
  · rw [List.dropLast_concat_getLast]
    exact open_of_lexeme (.blockComment hw)
  · exact open_of_refused (.openComment fun hi => hw.2 (hi.trans hp.isInfix)) (by rintro ⟨⟩)

theorem prefix_singleton {c d : Char} {x : List Char} (h : c :: x <+: [d]) : c :: x = [d] := by
  obtain ⟨rfl, hx⟩ := List.cons_prefix_cons.mp h
  rw [List.prefix_nil.mp hx]

/-- Nothing that is wrong for good stands in a lexeme that is cut off. -/
theorem open_of_cut_lexeme {k : Kind} {w z : List Char} (h : IsLexeme k w) (hp : z <+: w) :
    Open z := by
  cases z with
  | nil => exact open_nil
  | cons c x =>
    cases h with
    | lineFeed =>
      rw [prefix_singleton hp]
      exact open_of_lexeme .lineFeed
    | space =>
      rw [prefix_singleton hp]
      exact open_of_lexeme .space
    | tab =>
      rw [prefix_singleton hp]
      exact open_of_lexeme .tab
    | lineEnd =>
      obtain ⟨rfl, hx⟩ := List.cons_prefix_cons.mp hp
      cases x with
      | nil =>
        refine open_of_refused (.loneReturn (by simp)) ?_
        rintro ⟨h⟩
        exact h rfl rfl
      | cons d x =>
        rw [prefix_singleton hx]
        exact open_of_lexeme .lineEnd
    | lineComment hw =>
      obtain ⟨rfl, hx⟩ := List.cons_prefix_cons.mp hp
      cases x with
      | nil => exact open_of_lexeme (.symbol .slash)
      | cons d x =>
        obtain ⟨rfl, hxw⟩ := List.cons_prefix_cons.mp hx
        exact open_of_lexeme (.lineComment fun hm => hw (hxw.subset hm))
    | blockComment hw =>
      obtain ⟨rfl, hx⟩ := List.cons_prefix_cons.mp hp
      cases x with
      | nil => exact open_of_lexeme (.symbol .slash)
      | cons d x =>
        obtain ⟨rfl, hxw⟩ := List.cons_prefix_cons.mp hx
        exact open_of_cut_blockComment hw hxw
    | symbol y =>
      obtain ⟨z, hz⟩ := SymbolTable.exists_spelling_of_prefix (List.cons_ne_nil c x) hp
      rw [← hz]
      exact open_of_lexeme (.symbol z)
    | word hc hw =>
      obtain ⟨rfl, hx⟩ := List.cons_prefix_cons.mp hp
      exact open_of_lexeme (.word hc fun y hy => hw y (hx.subset hy))
    | number hw =>
      exact open_of_lexeme (.number fun y hy => hw y (hp.subset hy))
    | decimal hw hf =>
      obtain ⟨rfl, hx⟩ := List.cons_prefix_cons.mp hp
      exact open_of_cut_decimal hw hf hx
    | string hs =>
      obtain ⟨rfl, hx⟩ := List.cons_prefix_cons.mp hp
      exact open_of_cut_quoted rfl hs (.string hs) hx
    | character hu =>
      obtain ⟨rfl, hx⟩ := List.cons_prefix_cons.mp hp
      have hs := IsBody.cons hu .nil
      rw [List.append_nil] at hs
      exact open_of_cut_quoted rfl hs (.character hu) hx

/-- A settled fault is the same whatever stands behind the text. -/
theorem refused_append {c : Char} {r : List Char} {f : Refusal} (h : Refused c r f)
    (hf : Settled r f.fault) (t : List Char) : Refused c (r ++ t) f := by
  cases h with
  | loneReturn h =>
    obtain ⟨hr⟩ := hf
    obtain ⟨d, r, rfl⟩ := List.exists_cons_of_ne_nil (hr rfl)
    exact .loneReturn h
  | stray h => exact .stray h
  | openComment | openLiteral => cases hf
  | @badEscape _ s vs x e hc hs hx =>
    rw [List.append_assoc]
    refine .badEscape hc hs ?_
    cases hx with
    | @badEscape x _ hne he =>
      have hne' : ¬ (x ++ t = [] ∨ ∃ y, x ++ t = '\n' :: y) := by
        cases x with
        | nil => exact absurd (.inl rfl) hne
        | cons d x => simpa using hne
      refine .badEscape hne' (decode_append_error he ?_ ?_ ?_ t) <;> rintro rfl <;> cases hf
  | badCharacter hs hx hlen =>
    rw [List.append_assoc]
    cases hx with
    | quote => exact .badCharacter hs .quote hlen

theorem step_append {w y : List Char} {k : Kind} (h : Step (w ++ y) k w) (hy : y ≠ [])
    (ho : ¬ Open (w ++ y)) (t : List Char) : Step (w ++ (y ++ t)) k w := by
  have hwy : w ++ y <+: w ++ (y ++ t) := by
    rw [← List.append_assoc]
    exact List.prefix_append _ t
  have hlen : 2 ≤ (w ++ y).length := by
    have hw := List.length_pos_of_ne_nil h.lexeme.ne_nil
    have hy := List.length_pos_of_ne_nil hy
    rw [List.length_append]
    omega
  cases h with
  | blockComment hw hr => exact .blockComment hw (List.prefix_append _ _)
  | lineComment hr hw =>
    obtain rfl := List.append_cancel_left hr
    exact .lineComment rfl (isLine_append hw hy t)
  | longest hb hl h =>
    refine .longest (fun hp => hb (List.prefix_of_prefix_length_le hp hwy hlen))
      (fun hp => hl (List.prefix_of_prefix_length_le hp hwy hlen))
      ⟨h.lexeme, List.prefix_append _ _, ?_⟩
    intro k' w' hw' hp
    obtain hp | hp := List.prefix_or_prefix_of_prefix hp hwy
    · exact h.longest k' w' hw' hp
    · exact absurd (open_of_cut_lexeme hw' hp) ho

theorem munches_append {s r : List Char} {c : Char} {ls : List (Kind × List Char)} {f : Refusal}
    (h : Munches s ls (c :: r)) (hf : Lexeme.front c r = .error f) (hs : Settled r f.fault)
    (t : List Char) : Munches (s ++ t) ls (c :: (r ++ t)) := by
  apply munches_extend h
  intro k w y ms _ _ hstep hr
  have ho : ¬ Open (w ++ y) := fun ho => ho _ c r f (.step hstep hr) hf hs
  have hy : y ≠ [] := by
    rw [hr.eq_append]
    simp
  exact step_append hstep hy ho t

def EndsWithReturn (s : List Char) (p : Position) : Prop :=
  ∃ a, s = a ++ ['\r'] ∧ p = Position.start.advanceAll a

/-- The errors of a source that stay whatever is added to it. -/
inductive Definitive (s : List Char) : ScanError → Prop
  | invalidCharLiteral {p : Position} : Definitive s ⟨.invalidCharLiteral, p⟩
  | unknownEscape {c : Char} {p : Position} : Definitive s ⟨.invalidEscape (.unknown c), p⟩
  | invalidCodepoint {v : Nat} {p : Position} :
      Definitive s ⟨.invalidEscape (.invalidCodepoint v), p⟩
  | unexpectedCharacter {c : Char} {p : Position} (h : ¬ (c = '\r' ∧ EndsWithReturn s p)) :
      Definitive s ⟨.unexpectedCharacter c, p⟩

/-- The errors of a source that more text may repair. -/
inductive Repairable (s : List Char) : ScanError → Prop
  | unterminatedComment {p : Position} : Repairable s ⟨.unterminatedComment, p⟩
  | unterminatedLiteral {d : Char} {p : Position} : Repairable s ⟨.unterminatedLiteral d, p⟩
  | malformedHex {p : Position} : Repairable s ⟨.invalidEscape .malformedHex, p⟩
  | malformedUnicode {p : Position} : Repairable s ⟨.invalidEscape .malformedUnicode, p⟩
  | lastReturn {p : Position} (h : EndsWithReturn s p) : Repairable s ⟨.unexpectedCharacter '\r', p⟩

theorem Definitive.not_repairable {s : List Char} {e : ScanError} (h : Definitive s e) :
    ¬ Repairable s e := by
  cases h with
  | unexpectedCharacter h =>
    rintro ⟨h'⟩
    exact h ⟨rfl, ‹_›⟩
  | _ => rintro ⟨⟩

theorem settled_or_repairable {s : List Char} {ls : List (Kind × List Char)} {c : Char}
    {r : List Char} {f : Refusal} (hm : Munches s ls (c :: r)) (hf : Refused c r f) :
    Settled r f.fault ∨
      Repairable s (errorAt (Position.start.advanceAll (spelled ls)) c r f) := by
  cases hf with
  | loneReturn =>
    by_cases hr : r = []
    · exact .inr (.lastReturn ⟨spelled ls, hr ▸ hm.eq_append, rfl⟩)
    · exact .inl (.unexpectedCharacter fun _ => hr)
  | stray hc =>
    refine .inl (.unexpectedCharacter ?_)
    rintro rfl
    cases hc
  | openComment => exact .inr .unterminatedComment
  | openLiteral => exact .inr .unterminatedLiteral
  | @badEscape _ s vs t e hc hs ht =>
    obtain _ | _ | _ | _ | ⟨hne, he⟩ := ht
    cases e with
    | incomplete => exact absurd (.inl (decode_eq_incomplete_iff.mp he)) hne
    | unknown => exact .inl .unknownEscape
    | malformedHex => exact .inr .malformedHex
    | malformedUnicode => exact .inr .malformedUnicode
    | invalidCodepoint => exact .inl .invalidCodepoint
  | badCharacter => exact .inl .invalidCharLiteral

theorem run_append {s : List Char} {ls : List (Kind × List Char)} {c : Char} {r : List Char}
    {f : Refusal} (hm : Munches s ls (c :: r)) (hf : Refused c r f) (hs : Settled r f.fault)
    (t : List Char) : Scan.run .start (s ++ t) = Scan.run .start s := by
  have hm' := munches_append hm (front_of_refused hf) hs t
  have htake : (c :: (r ++ t)).take f.distance = (c :: r).take f.distance := by
    rw [← List.cons_append, List.take_append_of_le_length hf.distance_le]
  rw [run_of_munches hm, run_refused (front_of_refused hf), run_of_munches hm',
    run_refused (front_of_refused (refused_append hf hs t)), htake]

/-- No text behind a source changes a definitive error or the tokens before it, so a source that
more text completes can only fail with an error that is repairable. -/
theorem definitive_error_stays {s : List Char} {e : ScanError} (h : tokenize s = .error e) :
    (Definitive s e → ∀ t, Scan.run .start (s ++ t) = Scan.run .start s ∧
      tokenize (s ++ t) = .error e) ∧
    ∀ t ts, tokenize (s ++ t) = .ok ts → Repairable s e := by
  obtain ⟨ls, c, r, f, hm, hf, rfl, hrun⟩ := exists_refused h
  have hstay : Settled r f.fault → ∀ t, tokenize (s ++ t) =
      .error (errorAt (Position.start.advanceAll (spelled ls)) c r f) := by
    intro hs t
    exact tokenize_of_error (by rw [run_append hm hf hs t, hrun])
  constructor
  · intro hd t
    have hs := (settled_or_repairable hm hf).resolve_right hd.not_repairable
    exact ⟨run_append hm hf hs t, hstay hs t⟩
  · intro t ts ht
    refine (settled_or_repairable hm hf).resolve_left ?_
    intro hs
    rw [hstay hs t] at ht
    cases ht

def surrogate : List Char := ['1', '.', '\'', '\\', 'u', '{', 'D', '8', '0', '0', '}']

/-- Closing the literal does not help where a line feed helps a carriage return. -/
theorem definitive_error_stays_surrogate :
    (tokenize surrogate = .error ⟨.invalidEscape (.invalidCodepoint 0xD800), ⟨0, 3, 3⟩⟩ ∧
      Definitive surrogate ⟨.invalidEscape (.invalidCodepoint 0xD800), ⟨0, 3, 3⟩⟩ ∧
      Scan.run .start (surrogate ++ ['\'']) = Scan.run .start surrogate ∧
      tokenize (surrogate ++ ['\'']) =
        .error ⟨.invalidEscape (.invalidCodepoint 0xD800), ⟨0, 3, 3⟩⟩) ∧
    tokenize ['1', '\r'] = .error ⟨.unexpectedCharacter '\r', ⟨0, 1, 1⟩⟩ ∧
      (∃ ts, tokenize (['1', '\r'] ++ ['\n']) = .ok ts) ∧
      Repairable ['1', '\r'] ⟨.unexpectedCharacter '\r', ⟨0, 1, 1⟩⟩ := by
  have h : tokenize surrogate = .error ⟨.invalidEscape (.invalidCodepoint 0xD800), ⟨0, 3, 3⟩⟩ :=
    tokenize_of_error (by decide +kernel)
  have hd : Definitive surrogate ⟨.invalidEscape (.invalidCodepoint 0xD800), ⟨0, 3, 3⟩⟩ :=
    .invalidCodepoint
  have hr : tokenize ['1', '\r'] = .error ⟨.unexpectedCharacter '\r', ⟨0, 1, 1⟩⟩ :=
    tokenize_of_error (by decide +kernel)
  have hok : ∃ ts, tokenize (['1', '\r'] ++ ['\n']) = .ok ts := by
    have hrun : (Scan.run .start (['1', '\r'] ++ ['\n'])).error? = none := by decide +kernel
    exact ⟨_, by rw [tokenize, hrun]⟩
  obtain ⟨ts, ht⟩ := hok
  exact ⟨⟨h, hd, (definitive_error_stays h).1 hd _⟩, hr, ⟨ts, ht⟩,
    (definitive_error_stays hr).2 _ ts ht⟩

end XorScan.DefinitiveErrors
