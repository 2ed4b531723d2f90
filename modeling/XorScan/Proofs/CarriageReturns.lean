import XorScan.Proofs.EscapeErrors
import XorScan.Proofs.LexicalGrammar
import XorScan.Position

namespace XorScan.CarriageReturns

open CharRun CommentExtent Escape EscapeGrammar LexicalGrammar LiteralUnits

/-- A text with a carriage return put before each of its line feeds. -/
def crlf (s : List Char) : List Char :=
  s.flatMap fun c => if c = '\n' then ['\r', '\n'] else [c]

theorem crlf_append (s t : List Char) : crlf (s ++ t) = crlf s ++ crlf t := List.flatMap_append

theorem crlf_lineFeed (s : List Char) : crlf ('\n' :: s) = '\r' :: '\n' :: crlf s := rfl

theorem crlf_cons {c : Char} (hc : c ≠ '\n') (s : List Char) : crlf (c :: s) = c :: crlf s := by
  simp [crlf, hc]

theorem crlf_eq_self {s : List Char} (h : '\n' ∉ s) : crlf s = s := by
  induction s with
  | nil => rfl
  | cons c s ih =>
    simp only [List.mem_cons, not_or] at h
    rw [crlf_cons (Ne.symm h.1), ih h.2]

theorem head?_crlf_ne (s : List Char) : (crlf s).head? ≠ some '\n' := by
  cases s with
  | nil => simp [crlf]
  | cons c s => by_cases hc : c = '\n' <;> simp [crlf, hc]

theorem head?_crlf_iff {c : Char} (hr : c ≠ '\r') (hn : c ≠ '\n') {s : List Char} :
    (crlf s).head? = some c ↔ s.head? = some c := by
  cases s with
  | nil => rfl
  | cons d s =>
    by_cases hd : d = '\n'
    · simp [crlf, hd, Ne.symm hr, Ne.symm hn]
    · simp [crlf, hd]

/-- No line end is in the text or cut by its end. -/
structure Plain (w : List Char) : Prop where
  lineFeed : '\n' ∉ w
  last : w.getLast? ≠ some '\r'

theorem prefix_of_prefix_crlf {w s : List Char} (hw : Plain w) (h : w <+: crlf s) : w <+: s := by
  obtain ⟨hn, hl⟩ := hw
  induction s generalizing w with
  | nil => exact h
  | cons c s ih =>
    cases w with
    | nil => exact List.nil_prefix
    | cons d w =>
      simp only [List.mem_cons, not_or] at hn
      by_cases hc : c = '\n'
      · rw [hc, crlf_lineFeed] at h
        obtain ⟨rfl, hw⟩ := List.cons_prefix_cons.mp h
        cases w with
        | nil => exact absurd rfl hl
        | cons e w =>
          obtain ⟨rfl, -⟩ := List.cons_prefix_cons.mp hw
          simp at hn
      · rw [crlf_cons hc] at h
        obtain ⟨rfl, hw⟩ := List.cons_prefix_cons.mp h
        refine List.cons_prefix_cons.mpr ⟨rfl, ?_⟩
        cases w with
        | nil => exact List.nil_prefix
        | cons e w => exact ih hw hn.2 (by simpa using hl)

theorem infix_crlf_iff {s : List Char} : ['*', '/'] <:+: crlf s ↔ ['*', '/'] <:+: s := by
  induction s with
  | nil => rfl
  | cons c s ih =>
    by_cases hc : c = '\n'
    · rw [hc, crlf_lineFeed, List.infix_cons_iff, List.infix_cons_iff, List.infix_cons_iff, ih]
      simp
    · have hp : ∀ x : List Char, ['*', '/'] <+: c :: x ↔ c = '*' ∧ x.head? = some '/' := by
        intro x
        cases x <;> simp [eq_comm]
      rw [crlf_cons hc, List.infix_cons_iff, List.infix_cons_iff, ih, hp, hp,
        head?_crlf_iff (by decide) (by decide)]

theorem closes_crlf {w : List Char} (h : Closes w) : Closes (crlf w) := by
  obtain ⟨⟨x, rfl⟩, hn⟩ := h
  have hx : crlf (x ++ ['*', '/']) = crlf (x ++ ['*']) ++ ['/'] := by
    rw [← crlf_eq_self (s := ['/']) (by decide), ← crlf_append, List.append_assoc]
    rfl
  have hd : (x ++ ['*', '/']).dropLast = x ++ ['*'] := by
    rw [List.dropLast_append_of_ne_nil (by simp)]
    rfl
  refine ⟨⟨crlf x, by rw [crlf_append]; rfl⟩, ?_⟩
  rw [hx, List.dropLast_concat, infix_crlf_iff, ← hd]
  exact hn

theorem decodeHex_crlf (r : List Char) : decodeHex (crlf r) = decodeHex r := by
  have hr : Hex.isDigit '\r' = false := by decide
  have hn : Hex.isDigit '\n' = false := by decide
  match r with
  | [] => rfl
  | [a] => by_cases ha : a = '\n' <;> simp [crlf, decodeHex, ha, hr]
  | a :: b :: t =>
    by_cases ha : a = '\n' <;> by_cases hb : b = '\n' <;> simp [crlf, decodeHex, ha, hb, hr, hn]

theorem isRun_crlf {ds t : List Char} (h : IsRun Hex.isDigit ds t) :
    IsRun Hex.isDigit ds (crlf t) := by
  refine ⟨h.all, ?_⟩
  intro c hc
  by_cases hr : c = '\r'
  · rw [hr]
    decide
  · have hn : c ≠ '\n' := fun hn => head?_crlf_ne t (hn ▸ hc)
    exact h.stop c ((head?_crlf_iff hr hn).mp hc)

theorem decodeUnicode_crlf (r : List Char) : decodeUnicode (crlf r) = decodeUnicode r := by
  cases r with
  | nil => rfl
  | cons c r =>
    by_cases hc : c = '{'
    · obtain ⟨ds, t, rfl, hr⟩ := exists_isRun Hex.isDigit r
      have hds : '\n' ∉ ds := fun hm => absurd (hr.all '\n' hm) (by decide)
      have hclose := head?_crlf_iff (c := '}') (by decide) (by decide) (s := t)
      rw [hc, crlf_cons (by decide), crlf_append, crlf_eq_self hds,
        decodeUnicode_of_run (isRun_crlf hr), decodeUnicode_of_run hr]
      simp only [ne_eq, hclose]
    · by_cases hn : c = '\n' <;> simp [crlf, decodeUnicode, hc, hn]

theorem decode_crlf {s : List Char} (h : s.head? ≠ some '\n') : decode (crlf s) = decode s := by
  cases s with
  | nil => rfl
  | cons c s =>
    have hc : c ≠ '\n' := by simpa using h
    rw [crlf_cons hc, decode, decode, decodeHex_crlf, decodeUnicode_crlf]

theorem lineFeed_notMem_of_isEscape {e : List Char} {v : Char} (h : IsEscape e v) : '\n' ∉ e := by
  have hdigit : ∀ c, Hex.isDigit c = true → '\n' ≠ c := by
    rintro _ h rfl
    exact absurd h (by decide)
  cases h with
  | letter h =>
    intro hm
    rw [← List.mem_singleton.mp hm] at h
    cases h
  | hex ha hb => simpa using ⟨hdigit _ ha, hdigit _ hb⟩
  | unicode h =>
    simpa using fun hm => hdigit _ (h _ hm) rfl

theorem lineFeed_notMem_of_isUnit {d : Char} {u : List Char} {v : Char} (h : IsUnit d u v) :
    '\n' ∉ u := by
  cases h with
  | plain hd hb hn => simpa using Ne.symm hn
  | escape h => simpa using lineFeed_notMem_of_isEscape (isEscape_iff.mpr h)

theorem lineFeed_notMem_of_isBody {d : Char} {s vs : List Char} (h : IsBody d s vs) :
    '\n' ∉ s := by
  induction h with
  | nil => simp
  | cons hu hs ih => simpa using ⟨lineFeed_notMem_of_isUnit hu, ih⟩

theorem crlf_body_append {d : Char} {s vs : List Char} (h : IsBody d s vs) (t : List Char) :
    crlf (s ++ t) = s ++ crlf t := by
  rw [crlf_append, crlf_eq_self (lineFeed_notMem_of_isBody h)]

theorem line_column_crlf {p q : Position} (h : q.line = p.line ∧ q.column = p.column)
    (s : List Char) :
    (q.advanceAll (crlf s)).line = (p.advanceAll s).line ∧
      (q.advanceAll (crlf s)).column = (p.advanceAll s).column := by
  induction s generalizing p q with
  | nil => exact h
  | cons c s ih =>
    by_cases hc : c = '\n'
    · rw [hc, crlf_lineFeed, Position.advanceAll_cons, Position.advanceAll_cons,
        Position.advanceAll_cons]
      exact ih (by simp [Position.advance, h])
    · rw [crlf_cons hc, Position.advanceAll_cons, Position.advanceAll_cons]
      refine ih ?_
      by_cases ht : c = '\t' <;> simp [Position.advance, hc, ht, h]

end XorScan.CarriageReturns
