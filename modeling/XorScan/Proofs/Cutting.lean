import XorScan.Proofs.ScannerRun
import XorScan.Proofs.Translation

namespace XorScan.Cutting

open CommentExtent LexicalGrammar LongestLexeme MaximalMunch ScannerRun Tokenization Translation

theorem endsLine_extend {x y : List Char} (h : EndsLine x) (hx : x ≠ []) (hp : x <+: y) :
    EndsLine y := by
  obtain ⟨z, rfl⟩ := hp
  obtain rfl | ⟨t, rfl | rfl⟩ := h
  · exact absurd rfl hx
  · exact .inr ⟨t ++ z, .inl rfl⟩
  · exact .inr ⟨t ++ z, .inr rfl⟩

theorem endsLine_cut {x y : List Char} (h : EndsLine y) (hp : x <+: y) (hx : x ≠ ['\r']) :
    EndsLine x := by
  cases x with
  | nil => exact .inl rfl
  | cons c x =>
    obtain ⟨z, rfl⟩ := hp
    obtain rfl | ⟨rfl, hh⟩ := endsLine_cons.mp h
    · exact .inr ⟨x, .inl rfl⟩
    · cases x with
      | nil => exact absurd rfl hx
      | cons d x =>
        cases hh
        exact .inr ⟨x, .inr rfl⟩

theorem isLine_cut {w x y : List Char} (h : IsLine w y) (hp : x <+: y) (hx : x ≠ ['\r']) :
    IsLine w x := by
  refine ⟨endsLine_cut h.1 hp hx, ?_⟩
  intro u v huv hv he
  refine h.2 u v huv hv (endsLine_extend he ?_ ((List.prefix_append_right_inj v).mpr hp))
  simp [hv]

theorem longest_cut {w x y : List Char} {k : Kind} (h : Longest (w ++ y) k w)
    (hp : x <+: y) : Longest (w ++ x) k w := by
  have hwx : w ++ x <+: w ++ y := (List.prefix_append_right_inj w).mpr hp
  exact ⟨h.lexeme, List.prefix_append w x, fun k' w' hw' hp' =>
    h.longest k' w' hw' (hp'.trans hwx)⟩

/-- A step stays the same when the text behind it is cut off, unless the cut divides a line end. -/
theorem step_cut {w x y : List Char} {k : Kind} (h : Step (w ++ y) k w) (hp : x <+: y)
    (hx : x ≠ ['\r']) : Step (w ++ x) k w := by
  have hwx : w ++ x <+: w ++ y := (List.prefix_append_right_inj w).mpr hp
  cases h with
  | blockComment hw hr => exact .blockComment hw (List.prefix_append _ x)
  | @lineComment w t hr hw =>
    obtain rfl := List.append_cancel_left hr
    exact .lineComment rfl (isLine_cut hw hp hx)
  | longest hb hl h =>
    exact .longest (fun hc => hb (hc.trans hwx)) (fun hc => hl (hc.trans hwx))
      (longest_cut h hp)

theorem spelled_ne_return {s t : List Char} {ls : List (Kind × List Char)} (h : Munches s ls t) :
    spelled ls ≠ ['\r'] := by
  cases h with
  | done => simp [spelled]
  | @step w r t k ls hs hr =>
    obtain ⟨c, x, rfl⟩ := List.exists_cons_of_ne_nil hs.lexeme.ne_nil
    intro he
    simp only [spelled, List.flatMap_cons, List.cons_append, List.cons.injEq,
      List.append_eq_nil_iff] at he
    obtain ⟨rfl, rfl, -⟩ := he
    obtain ⟨-, ⟨hc, -⟩ | ⟨-, hx⟩⟩ := hs.lexeme.shape
    · cases hc
    · cases hx

theorem munches_spelled {s t : List Char} {ls : List (Kind × List Char)} (h : Munches s ls t) :
    Munches (spelled ls) ls [] := by
  induction h with
  | done => exact .done
  | @step w r t k ls hs hr ih =>
    have hp : spelled ls <+: r := ⟨t, hr.eq_append.symm⟩
    exact .step (step_cut hs hp (spelled_ne_return hr)) ih

/-- What a scanner still gives is what a new scanner gives for the rest, with the positions moved. -/
theorem remaining_eq_map_shiftResult {sc : Scanner} (h : sc.stage = .scanning) :
    sc.remaining = (Scanner.ofSource sc.rest).remaining.map (shiftResult sc.position) := by
  have hrun := run_eq_shiftScan sc.position sc.rest
  unfold Scanner.remaining
  rw [h]
  dsimp only [Scanner.ofSource]
  rw [hrun]
  cases Scan.run .start sc.rest with
  | mk ts e => cases e <;> simp [shiftScan, shiftResult]

/-- Cutting a source behind any of its tokens changes nothing on either side. The part before the cut
has the tokens before it, and the part behind it gives what the scan of the whole gives from there on,
with the positions moved. -/
theorem scan_cut {s : List Char} {ts : List Token} {sc : Scanner} (h : Yields s ts sc)
    (hts : ∀ t ∈ ts, t.kind ≠ .endOfInput) :
    s = ts.flatMap Token.text ++ sc.rest ∧
      sc.position = Position.start.advanceAll (ts.flatMap Token.text) ∧
      tokenize (ts.flatMap Token.text) = .ok (ts ++ [Token.endOfInput sc.position]) ∧
      Scan.run .start s = after ts (shiftScan sc.position (Scan.run .start sc.rest)) ∧
      sc.remaining = (Scanner.ofSource sc.rest).remaining.map (shiftResult sc.position) := by
  obtain ⟨ls, hm, hp, ⟨hst, rfl⟩ | ⟨-, -, rfl⟩⟩ := yields_cases h
  · rw [texts_place]
    refine ⟨hm.eq_append, hp, ?_, ?_, remaining_eq_map_shiftResult hst⟩
    · rw [tokenize_of_munches (munches_spelled hm), hp]
    · rw [run_of_munches hm, ← hp, run_eq_shiftScan]
  · exact absurd rfl (hts (Token.endOfInput sc.position) (by simp))

theorem scan_cut_before_point :
    Yields ['1', '.', '\n', '"'] [⟨.literal .number, ['1'], .start⟩]
        ⟨['1', '.', '\n', '"'], ['.', '\n', '"'], ⟨0, 1, 1⟩, .scanning⟩ ∧
      (∀ t ∈ [(⟨.literal .number, ['1'], .start⟩ : Token)], t.kind ≠ .endOfInput) ∧
      tokenize ['1'] = .ok [⟨.literal .number, ['1'], .start⟩, Token.endOfInput ⟨0, 1, 1⟩] ∧
      Scan.run .start ['1', '.', '\n', '"'] = after [⟨.literal .number, ['1'], .start⟩]
        (shiftScan ⟨0, 1, 1⟩ (Scan.run .start ['.', '\n', '"'])) := by
  have h : Yields ['1', '.', '\n', '"'] [⟨.literal .number, ['1'], .start⟩]
      ⟨['1', '.', '\n', '"'], ['.', '\n', '"'], ⟨0, 1, 1⟩, .scanning⟩ := .next .start rfl
  have hts : ∀ t ∈ [(⟨.literal .number, ['1'], .start⟩ : Token)], t.kind ≠ .endOfInput := by decide
  obtain ⟨-, -, htok, hrun, -⟩ := scan_cut h hts
  exact ⟨h, hts, htok, hrun⟩

end XorScan.Cutting
