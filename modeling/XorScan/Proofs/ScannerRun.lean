import XorScan.Proofs.Tokenization
import XorScan.Scanner

namespace XorScan.ScannerRun

open LexicalGrammar MaximalMunch Tokenization

/-- The tokens that successful calls on a new scanner of `s` have handed out, and the scanner that
they leave. -/
inductive Yields (s : List Char) : List Token → Scanner → Prop
  | start : Yields s [] (Scanner.ofSource s)
  | next {ts : List Token} {sc sc' : Scanner} {t : Token} (h : Yields s ts sc)
      (hn : sc.next = (.ok t, sc')) : Yields s (ts ++ [t]) sc'

/-- A successful call takes one step, or hands out the end of input once nothing is left. -/
theorem next_cases {sc sc' : Scanner} {t : Token} (h : sc.next = (.ok t, sc')) :
    sc.stage = .scanning ∧ t.position = sc.position ∧
      ((sc.rest = [] ∧ t = Token.endOfInput sc.position ∧
          sc' = { sc with stage := .finished }) ∨
        (Step sc.rest t.kind t.text ∧ sc.rest = t.text ++ sc'.rest ∧
          sc' = ⟨sc.source, sc'.rest, sc.position.advanceAll t.text, .scanning⟩)) := by
  unfold Scanner.next at h
  split at h
  · cases h
  · cases h
  next hs =>
    split at h
    next hr =>
      cases h
      exact ⟨hs, rfl, .inl ⟨hr, rfl, rfl⟩⟩
    next c r hr =>
      split at h
      · cases h
      next t' ht =>
        cases h
        obtain ⟨hp, hstep, happ⟩ := step_of_front ht
        obtain ⟨x, y, hxy⟩ := List.exists_cons_of_ne_nil hstep.lexeme.ne_nil
        refine ⟨hs, hp, .inr ⟨hr ▸ hstep, ?_, ?_⟩⟩
        · rw [hr, Scanner.skip, hr, hxy, List.length_cons, List.drop_succ_cons, happ, hxy]
          simp
        · simp [Scanner.skip, hs]

theorem munches_snoc {s t w : List Char} {k : Kind} {ls : List (Kind × List Char)}
    (h : Munches s ls (w ++ t)) (hs : Step (w ++ t) k w) : Munches s (ls ++ [(k, w)]) t := by
  generalize hu : w ++ t = u at h
  induction h with
  | done =>
    rw [← hu]
    exact .step hs .done
  | step hstep hr ih => exact .step hstep (ih hu)

theorem place_snoc (p : Position) (ls : List (Kind × List Char)) (k : Kind) (w : List Char) :
    place p (ls ++ [(k, w)]) = place p ls ++ [⟨k, w, p.advanceAll (spelled ls)⟩] := by
  induction ls generalizing p with
  | nil => rfl
  | cons l ls ih => simp [place, ih, spelled, Position.advanceAll_append]

theorem yields_cases {s : List Char} {ts : List Token} {sc : Scanner} (h : Yields s ts sc) :
    ∃ ls, Munches s ls sc.rest ∧ sc.position = Position.start.advanceAll (spelled ls) ∧
      ((sc.stage = .scanning ∧ ts = place .start ls) ∨
        (sc.stage = .finished ∧ sc.rest = [] ∧
          ts = place .start ls ++ [Token.endOfInput sc.position])) := by
  induction h with
  | start => exact ⟨[], .done, rfl, .inl ⟨rfl, rfl⟩⟩
  | @next ts sc sc' t h hn ih =>
    obtain ⟨ls, hm, hp, hst⟩ := ih
    obtain ⟨hs, htp, hc⟩ := next_cases hn
    have hts : ts = place .start ls := by
      obtain ⟨-, hts⟩ | ⟨hf, -⟩ := hst
      · exact hts
      · cases hs.symm.trans hf
    obtain ⟨hr, rfl, rfl⟩ | ⟨hstep, hr, hsc⟩ := hc
    · exact ⟨ls, hm, hp, .inr ⟨rfl, hr, by rw [hts]⟩⟩
    · rw [hr] at hm hstep
      refine ⟨ls ++ [(t.kind, t.text)], munches_snoc hm hstep, ?_, .inl ⟨by rw [hsc], ?_⟩⟩
      · rw [hsc, hp]
        simp [spelled, Position.advanceAll_append]
      · rw [place_snoc, hts, ← hp, ← htp]

theorem next_of_step {s w r : List Char} {k : Kind} {p : Position} (h : Step (w ++ r) k w) :
    Scanner.next ⟨s, w ++ r, p, .scanning⟩ =
      (.ok ⟨k, w, p⟩, ⟨s, r, p.advanceAll w, .scanning⟩) := by
  obtain ⟨c, x, rfl⟩ := List.exists_cons_of_ne_nil h.lexeme.ne_nil
  have hf := front_of_step (p := p) h
  simp [Scanner.next, hf, Scanner.skip]

theorem yields_of_munches {s u t : List Char} {ls : List (Kind × List Char)} (h : Munches u ls t)
    {ts : List Token} {p : Position} (hy : Yields s ts ⟨s, u, p, .scanning⟩) :
    Yields s (ts ++ place p ls) ⟨s, t, p.advanceAll (spelled ls), .scanning⟩ := by
  induction h generalizing ts p with
  | done => simpa [place, spelled] using hy
  | step hstep hr ih =>
    have h := ih (.next hy (next_of_step hstep))
    simpa [place, spelled, Position.advanceAll_append] using h

theorem step_of_mem {s : List Char} {ts : List Token} {sc : Scanner} (h : Yields s ts sc)
    {t : Token} (ht : t ∈ ts) : t.kind = .endOfInput ∨ ∃ a r, s = a ++ (t.text ++ r) ∧
      t.position = Position.start.advanceAll a ∧ Step (t.text ++ r) t.kind t.text := by
  induction h with
  | start => cases ht
  | @next ts sc sc' u h hn ih =>
    obtain ht | ht := List.mem_append.mp ht
    · exact ih ht
    · obtain rfl := List.mem_singleton.mp ht
      obtain ⟨ls, hm, hp, -⟩ := yields_cases h
      obtain ⟨-, htp, ⟨-, rfl, -⟩ | ⟨hstep, hr, -⟩⟩ := next_cases hn
      · exact .inl rfl
      · rw [hr] at hstep hm
        exact .inr ⟨spelled ls, sc'.rest, hm.eq_append, htp.trans hp, hstep⟩

end XorScan.ScannerRun
