import XorScan.Proofs.Failures

namespace XorScan.Lifecycle

open Failures ScannerRun Tokenization

/-- The two ways to ask a scanner for a token. -/
inductive Call where
  | next
  | next?
  deriving DecidableEq

abbrev Answer := Option (Except ScanError Token)

def ask (sc : Scanner) : Call → Answer × Scanner
  | .next => (some sc.next.1, sc.next.2)
  | .next? => sc.next?

def answers (sc : Scanner) : List Call → List Answer
  | [] => []
  | c :: cs => (ask sc c).1 :: answers (ask sc c).2 cs

def reached (sc : Scanner) : List Call → Scanner
  | [] => sc
  | c :: cs => reached (ask sc c).2 cs

def token? : Answer → Option Token
  | some (.ok t) => some t
  | _ => none

def handed (as : List Answer) : List Token := as.filterMap token?

/-- The answer of a scanner that has stopped, where it repeats `e`. -/
def repeated (e : ScanError) : Call → Answer
  | .next => some (.error e)
  | .next? => none

def lastError (sc : Scanner) : ScanError :=
  match sc.finish.stage with
  | .failed e => e
  | _ => ⟨.alreadyFinished, sc.finish.position⟩

variable {sc : Scanner} {s : List Char} {cs : List Call}

/-- A scanner that has not stopped does one of three things, and the scan of its rest begins with it. -/
theorem next_scanning (h : sc.stage = .scanning) :
    (∃ e, sc.next = (.error e, { sc with stage := .failed e }) ∧
      Scan.run sc.position sc.rest = ⟨[], some e⟩) ∨
    (sc.next = (.ok (Token.endOfInput sc.position), { sc with stage := .finished }) ∧
      Scan.run sc.position sc.rest = ⟨[Token.endOfInput sc.position], none⟩) ∨
    ∃ t, sc.next = (.ok t, sc.skip t) ∧ t.isEndOfInput = false ∧
      (sc.skip t).rest.length < sc.rest.length ∧
      Scan.run sc.position sc.rest = (Scan.run (sc.skip t).position (sc.skip t).rest).push t := by
  obtain ⟨source, rest, p, stage⟩ := sc
  subst h
  cases rest with
  | nil => exact .inr (.inl ⟨rfl, run_nil p⟩)
  | cons c r =>
    cases hf : Token.front p c r with
    | error e =>
      refine .inl ⟨e, ?_, ?_⟩
      · simp only [Scanner.next, hf]
      · rw [Scan.run, hf]
    | ok t =>
      obtain ⟨-, hstep, happ⟩ := step_of_front hf
      have hpos := List.length_pos_of_ne_nil hstep.lexeme.ne_nil
      have hdrop : (c :: r).drop t.text.length = r.drop (t.text.length - 1) := by
        rw [happ, List.drop_left]
      refine .inr (.inr ⟨t, ?_, ?_, ?_, ?_⟩)
      · simp only [Scanner.next, hf]
      · simpa [Token.isEndOfInput] using hstep.lexeme.kind_ne_endOfInput
      · simp only [Scanner.skip, List.length_drop, List.length_cons]
        omega
      · simp only [Scanner.skip, hdrop]
        rw [Scan.run, hf]

theorem ask_scanning (h : sc.stage = .scanning) (c : Call) :
    ask sc c = (some sc.next.1, sc.next.2) := by
  cases c with
  | next => rfl
  | next? => simp [ask, Scanner.next?, h]

theorem finish_stopped (h : sc.stage ≠ .scanning) : sc.finish = sc := by
  unfold Scanner.finish
  split
  · contradiction
  · rfl

theorem remaining_stopped (h : sc.stage ≠ .scanning) : sc.remaining = [] := by
  unfold Scanner.remaining
  split
  · contradiction
  · rfl

theorem ask_stopped (h : sc.stage ≠ .scanning) (c : Call) :
    ask sc c = (repeated (lastError sc) c, sc) := by
  rw [lastError, finish_stopped h]
  obtain ⟨source, rest, p, stage⟩ := sc
  cases stage with
  | scanning => exact absurd rfl h
  | failed | finished => cases c <;> rfl

theorem remaining_scanning (h : sc.stage = .scanning) :
    sc.remaining = sc.next.1 :: sc.next.2.remaining := by
  obtain ⟨e, hn, hrun⟩ | ⟨hn, hrun⟩ | ⟨t, hn, -, -, hrun⟩ := next_scanning h
  · simp [hn, Scanner.remaining, h, hrun]
  · simp [hn, Scanner.remaining, h, hrun]
  · have hs : (sc.skip t).stage = .scanning := h
    simp [hn, Scanner.remaining, h, hs, hrun, Scan.push]

theorem finish_next (h : sc.stage = .scanning) : sc.next.2.finish = sc.finish := by
  obtain ⟨e, hn, hrun⟩ | ⟨hn, hrun⟩ | ⟨t, hn, -, -, hrun⟩ := next_scanning h
  · simp [hn, Scanner.finish, h, hrun]
  · simp [hn, Scanner.finish, h, hrun, Token.endOfInput]
  · have hs : (sc.skip t).stage = .scanning := h
    simp only [hn, Scanner.finish, h, hs, hrun, Scan.push]
    simp [Scanner.skip, Position.advanceAll_append]

theorem lastError_next (h : sc.stage = .scanning) : lastError sc.next.2 = lastError sc := by
  rw [lastError, finish_next h, lastError]

/-- Whatever the calls are, they are answered by what the scan yields, in order, and then by
silence. -/
theorem answers_eq (sc : Scanner) (cs : List Call) :
    answers sc cs = (sc.remaining.take cs.length).map some ++
      (cs.drop sc.remaining.length).map (repeated (lastError sc)) := by
  induction cs generalizing sc with
  | nil => simp [answers]
  | cons c cs ih =>
    rw [answers, ih]
    by_cases h : sc.stage = .scanning
    · rw [ask_scanning h, remaining_scanning h, lastError_next h]
      simp
    · rw [ask_stopped h, remaining_stopped h]
      simp

theorem reached_of_le (h : sc.remaining.length ≤ cs.length) : reached sc cs = sc.finish := by
  induction cs generalizing sc with
  | nil =>
    have hs : sc.stage ≠ .scanning := by
      intro hs
      simp [remaining_scanning hs] at h
    exact (finish_stopped hs).symm
  | cons c cs ih =>
    rw [reached]
    by_cases hs : sc.stage = .scanning
    · rw [remaining_scanning hs] at h
      rw [ask_scanning hs, ih (by simpa using h), finish_next hs]
    · rw [ask_stopped hs, ih (by simp [remaining_stopped hs])]

theorem stage_reached_of_lt (h : cs.length < sc.remaining.length) :
    (reached sc cs).stage = .scanning := by
  have hs : sc.stage = .scanning := by
    by_contra hs
    simp [remaining_stopped hs] at h
  induction cs generalizing sc with
  | nil => exact hs
  | cons c cs ih =>
    rw [remaining_scanning hs] at h
    rw [reached, ask_scanning hs]
    have h' : cs.length < sc.next.2.remaining.length := by simpa using h
    refine ih h' ?_
    by_contra hs'
    simp [remaining_stopped hs'] at h'

theorem stopped_forever (h : sc.stage ≠ .scanning) (cs : List Call) :
    answers sc cs = cs.map (repeated (lastError sc)) ∧ reached sc cs = sc := by
  have hr := remaining_stopped h
  constructor
  · rw [answers_eq, hr]
    simp
  · rw [reached_of_le (by simp [hr]), finish_stopped h]

theorem length_le_spelled {ls : List (Kind × List Char)} (h : ∀ l ∈ ls, l.2 ≠ []) :
    ls.length ≤ (spelled ls).length := by
  induction ls with
  | nil => simp
  | cons l ls ih =>
    have hl := List.length_pos_of_ne_nil (h l List.mem_cons_self)
    have hls := ih fun m hm => h m (List.mem_cons_of_mem l hm)
    simp only [spelled, List.flatMap_cons, List.length_append, List.length_cons] at hls ⊢
    omega

theorem length_place (p : Position) (ls : List (Kind × List Char)) :
    (place p ls).length = ls.length := by
  induction ls generalizing p with
  | nil => rfl
  | cons l ls ih => simp [place, ih]

theorem of_munches {t : List Char} {ls : List (Kind × List Char)} (h : Munches s ls t) :
    (∀ u ∈ place .start ls, u.isEndOfInput = false) ∧ (place .start ls).length ≤ s.length := by
  constructor
  · intro u hu
    have hl := h.isLexeme_of_mem _ (mem_of_mem_place hu)
    simpa [Token.isEndOfInput] using hl.kind_ne_endOfInput
  · have hlen := length_le_spelled fun l hl => (h.isLexeme_of_mem l hl).ne_nil
    have hs := congrArg List.length h.eq_append
    rw [List.length_append] at hs
    rw [length_place]
    omega

theorem exists_course (s : List Char) :
    ∃ us, (∀ t ∈ us, t.isEndOfInput = false) ∧ us.length ≤ s.length ∧
      ((us.flatMap Token.text = s ∧
          Scan.run .start s = ⟨us ++ [Token.endOfInput (Position.start.advanceAll s)], none⟩) ∨
        ∃ e : ScanError, e.fault ≠ .alreadyFinished ∧ Scan.run .start s = ⟨us, some e⟩) := by
  cases h : tokenize s with
  | ok ts =>
    obtain ⟨ls, hm, -⟩ := munches_of_tokenize h
    have hs : s = spelled ls := by simpa using hm.eq_append
    obtain ⟨hend, hlen⟩ := of_munches hm
    refine ⟨place .start ls, hend, hlen, .inl ⟨?_, ?_⟩⟩
    · rw [texts_place, ← hs]
    · rw [run_of_munches hm, run_nil, ← hs]
      rfl
  | error e =>
    obtain ⟨ls, c, r, f, hm, hf, he, hrun⟩ := exists_refused h
    obtain ⟨hend, hlen⟩ := of_munches hm
    refine ⟨place .start ls, hend, hlen, .inr ⟨e, ?_, hrun⟩⟩
    rw [he]
    cases hf <;> simp [errorAt]

def given (ts : List Token) : List Answer := (ts.map .ok).map some

/-- Where calls bring a scanner of `s`: it still scans, it has given the end of input, or it has
failed. Before that it has handed out `us`. -/
inductive Brought (s : List Char) (cs : List Call) (us : List Token) (as : List Answer)
    (sc : Scanner) : Prop
  | scanning (hst : sc.stage = .scanning) (hlen : us.length = cs.length)
      (hus : us <+: (Scan.run .start s).tokens) (ha : as = given us)
  | finished (ds : List Call) (hst : sc.stage = .finished)
      (hp : sc.position = Position.start.advanceAll s)
      (hus : us ++ [Token.endOfInput sc.position] <+: (Scan.run .start s).tokens)
      (ha : as = given us ++ some (.ok (Token.endOfInput sc.position)) ::
        ds.map (repeated ⟨.alreadyFinished, sc.position⟩))
  | failed {e : ScanError} (ds : List Call) (hst : sc.stage = .failed e)
      (he : e.fault ≠ .alreadyFinished) (hus : us <+: (Scan.run .start s).tokens)
      (ha : as = given us ++ some (.error e) :: ds.map (repeated e))

theorem remaining_ofSource (s : List Char) : (Scanner.ofSource s).remaining =
    (Scan.run .start s).tokens.map .ok ++ (Scan.run .start s).error?.toList.map .error := rfl

theorem exists_brought (s : List Char) (cs : List Call) :
    ∃ us, Brought s cs us (answers (Scanner.ofSource s) cs) (reached (Scanner.ofSource s) cs) ∧
      (∀ t ∈ us, t.isEndOfInput = false) ∧ us.length ≤ s.length := by
  obtain ⟨us, hend, hlen, hc⟩ := exists_course s
  obtain ⟨a, hr, hus⟩ : ∃ a, (Scanner.ofSource s).remaining = us.map .ok ++ [a] ∧
      us <+: (Scan.run .start s).tokens := by
    rw [remaining_ofSource]
    obtain ⟨-, hrun⟩ | ⟨e, -, hrun⟩ := hc <;> simp [hrun]
  have hlen' : (Scanner.ofSource s).remaining.length = us.length + 1 := by simp [hr]
  have ha := answers_eq (Scanner.ofSource s) cs
  -- As long as there are no more calls than tokens before the last answer, the scanner goes on.
  by_cases hlt : cs.length ≤ us.length
  · refine ⟨us.take cs.length, .scanning ?_ ?_ ?_ ?_, ?_, ?_⟩
    · apply stage_reached_of_lt
      omega
    · rw [List.length_take, Nat.min_eq_left hlt]
    · exact (List.take_prefix _ _).trans hus
    · have htake : (Scanner.ofSource s).remaining.take cs.length = (us.take cs.length).map .ok := by
        rw [hr, List.take_append_of_le_length (by simpa using hlt), List.map_take]
      rw [ha, htake, List.drop_eq_nil_of_le (by omega)]
      simp [given]
    · exact fun t ht => hend t (List.mem_of_mem_take ht)
    · rw [List.length_take]
      omega
  · have hle : (Scanner.ofSource s).remaining.length ≤ cs.length := by omega
    rw [List.take_of_length_le hle, hlen'] at ha
    refine ⟨us, ?_, hend, hlen⟩
    rw [ha, reached_of_le hle]
    obtain ⟨hs, hrun⟩ | ⟨e, he, hrun⟩ := hc
    · have hfin : (Scanner.ofSource s).finish = ⟨s, [], Position.start.advanceAll s, .finished⟩ := by
        simp [Scanner.finish, Scanner.ofSource, hrun, hs, Token.endOfInput]
      refine .finished (cs.drop (us.length + 1)) (by rw [hfin]) (by rw [hfin]) (by rw [hfin, hrun]) ?_
      rw [lastError, hfin, remaining_ofSource, hrun]
      simp [given]
    · have hfin : (Scanner.ofSource s).finish.stage = .failed e := by
        simp [Scanner.finish, Scanner.ofSource, hrun]
      refine .failed (cs.drop (us.length + 1)) hfin he hus ?_
      rw [lastError, hfin, remaining_ofSource, hrun]
      simp [given]

@[simp] theorem handed_given (ts : List Token) : handed (given ts) = ts := by
  induction ts with
  | nil => rfl
  | cons t ts ih => simpa [handed, given, token?] using ih

@[simp] theorem handed_append (as bs : List Answer) : handed (as ++ bs) = handed as ++ handed bs :=
  List.filterMap_append

@[simp] theorem handed_token (t : Token) (as : List Answer) :
    handed (some (.ok t) :: as) = t :: handed as := rfl

@[simp] theorem handed_error (e : ScanError) (as : List Answer) :
    handed (some (.error e) :: as) = handed as := rfl

@[simp] theorem handed_repeated (e : ScanError) (cs : List Call) :
    handed (cs.map (repeated e)) = [] := by
  induction cs with
  | nil => rfl
  | cons c cs ih => cases c <;> exact ih

@[simp] theorem error_notMem_given (e : ScanError) (ts : List Token) :
    some (.error e) ∉ given ts := by
  simp [given]

theorem eq_of_mem_repeated {e e' : ScanError} {cs : List Call}
    (h : some (.error e) ∈ cs.map (repeated e')) : e = e' := by
  obtain ⟨c, -, hc⟩ := List.mem_map.mp h
  cases c with
  | next => exact (Except.error.inj (Option.some.inj hc)).symm
  | next? => cases hc

@[simp] theorem isEndOfInput_endOfInput (p : Position) :
    (Token.endOfInput p).isEndOfInput = true := rfl

/-- What a scanner of `s` has to show after any calls `cs`, which had the answers `as`. -/
structure Orderly (s : List Char) (cs : List Call) (as : List Answer) (sc : Scanner) : Prop where
  tokens : handed as <+: (Scan.run .start s).tokens
  endOfInput : (handed as).countP Token.isEndOfInput ≤ 1
  hasMore : sc.hasMore = false ↔ ∃ t ∈ handed as, t.isEndOfInput = true
  failure : ∀ e, sc.failure? = some e ↔ e.fault ≠ .alreadyFinished ∧ some (.error e) ∈ as
  finished : (∃ t ∈ handed as, t.isEndOfInput = true) → ∀ ds,
    answers sc ds = ds.map (repeated ⟨.alreadyFinished, Position.start.advanceAll s⟩) ∧
      (reached sc ds).failure? = none
  failed : ∀ e, e.fault ≠ .alreadyFinished → some (.error e) ∈ as → ∀ ds,
    answers sc ds = ds.map (repeated e) ∧ (reached sc ds).failure? = some e ∧
      (reached sc ds).hasMore = true
  bound : (handed as).length ≤ s.length + 1
  stops : s.length < cs.length → sc.hasMore = false ∨ ∃ e, sc.failure? = some e

section

variable {us : List Token} {as : List Answer} {ds : List Call}

theorem countP_isEndOfInput (hend : ∀ t ∈ us, t.isEndOfInput = false) :
    us.countP Token.isEndOfInput = 0 := by
  rw [List.countP_eq_zero]
  intro t ht
  simp [hend t ht]

theorem orderly_of_scanning (hst : sc.stage = .scanning) (hn : us.length = cs.length)
    (hus : us <+: (Scan.run .start s).tokens) (ha : as = given us)
    (hend : ∀ t ∈ us, t.isEndOfInput = false) (hlen : us.length ≤ s.length) :
    Orderly s cs as sc := by
  have hmore : sc.hasMore = true := by simp [Scanner.hasMore, hst]
  have hfail : sc.failure? = none := by simp [Scanner.failure?, hst]
  have hh : handed as = us := by simp [ha]
  have hnone : ¬ ∃ t ∈ handed as, t.isEndOfInput = true := by simpa [hh] using hend
  refine ⟨hh ▸ hus, by simp [hh, countP_isEndOfInput hend], by simpa [hmore] using hnone,
    by simp [hfail, ha], fun he => absurd he hnone, ?_, ?_, ?_⟩
  · intro e he hm
    simp [ha] at hm
  · rw [hh]
    omega
  · intro hlt
    omega

theorem orderly_of_finished (hst : sc.stage = .finished)
    (hp : sc.position = Position.start.advanceAll s)
    (hus : us ++ [Token.endOfInput sc.position] <+: (Scan.run .start s).tokens)
    (ha : as = given us ++ some (.ok (Token.endOfInput sc.position)) ::
      ds.map (repeated ⟨.alreadyFinished, sc.position⟩))
    (hend : ∀ t ∈ us, t.isEndOfInput = false) (hlen : us.length ≤ s.length) :
    Orderly s cs as sc := by
  have hstop : sc.stage ≠ .scanning := by simp [hst]
  have hlast : lastError sc = ⟨.alreadyFinished, sc.position⟩ := by
    rw [lastError, finish_stopped hstop, hst]
  have hmore : sc.hasMore = false := by simp [Scanner.hasMore, hst]
  have hfail : sc.failure? = none := by simp [Scanner.failure?, hst]
  have hh : handed as = us ++ [Token.endOfInput sc.position] := by simp [ha]
  have herr : ∀ e : ScanError, e.fault ≠ .alreadyFinished → some (.error e) ∉ as := by
    intro e he hm
    rw [ha] at hm
    have hm : some (.error e) ∈ ds.map (repeated ⟨.alreadyFinished, sc.position⟩) := by
      simpa using hm
    exact he (congrArg ScanError.fault (eq_of_mem_repeated hm))
  refine ⟨hh ▸ hus, by simp [hh, countP_isEndOfInput hend], by simp [hmore, hh],
    by simpa [hfail] using herr, ?_, ?_, ?_, fun _ => .inl hmore⟩
  · intro _ es
    obtain ⟨hans, hreach⟩ := stopped_forever hstop es
    rw [hans, hreach, hlast, hp]
    exact ⟨rfl, hfail⟩
  · intro e he hm
    exact absurd hm (herr e he)
  · rw [hh]
    simpa using hlen

theorem orderly_of_failed {e : ScanError} (hst : sc.stage = .failed e)
    (he : e.fault ≠ .alreadyFinished) (hus : us <+: (Scan.run .start s).tokens)
    (ha : as = given us ++ some (.error e) :: ds.map (repeated e))
    (hend : ∀ t ∈ us, t.isEndOfInput = false) (hlen : us.length ≤ s.length) :
    Orderly s cs as sc := by
  have hstop : sc.stage ≠ .scanning := by simp [hst]
  have hlast : lastError sc = e := by rw [lastError, finish_stopped hstop, hst]
  have hmore : sc.hasMore = true := by simp [Scanner.hasMore, hst]
  have hfail : sc.failure? = some e := by simp [Scanner.failure?, hst]
  have hh : handed as = us := by simp [ha]
  have hnone : ¬ ∃ t ∈ handed as, t.isEndOfInput = true := by simpa [hh] using hend
  have herr : ∀ e', some (.error e') ∈ as ↔ e = e' := by
    intro e'
    rw [ha]
    constructor
    · intro hm
      obtain hm | hm := List.mem_append.mp hm
      · exact absurd hm (error_notMem_given e' us)
      · obtain hm | hm := List.mem_cons.mp hm
        · exact (Except.error.inj (Option.some.inj hm)).symm
        · exact (eq_of_mem_repeated hm).symm
    · rintro rfl
      simp
  refine ⟨hh ▸ hus, by simp [hh, countP_isEndOfInput hend], by simpa [hmore] using hnone, ?_,
    fun hm => absurd hm hnone, ?_, ?_, fun _ => .inr ⟨e, hfail⟩⟩
  · intro e'
    rw [hfail, herr]
    constructor
    · rintro ⟨⟩
      exact ⟨he, rfl⟩
    · rintro ⟨-, rfl⟩
      rfl
  · intro e' _ hm es
    obtain ⟨hans, hreach⟩ := stopped_forever hstop es
    obtain rfl := (herr e').mp hm
    rw [hans, hreach, hlast]
    exact ⟨rfl, hfail, hmore⟩
  · rw [hh]
    omega

theorem orderly_of_brought (h : Brought s cs us as sc)
    (hend : ∀ t ∈ us, t.isEndOfInput = false) (hlen : us.length ≤ s.length) :
    Orderly s cs as sc := by
  cases h with
  | scanning hst hn hus ha => exact orderly_of_scanning hst hn hus ha hend hlen
  | finished ds hst hp hus ha => exact orderly_of_finished hst hp hus ha hend hlen
  | failed ds hst he hus ha => exact orderly_of_failed hst he hus ha hend hlen

end

theorem rest_lt_of_next {sc' : Scanner} {t : Token} (h : sc.next = (.ok t, sc'))
    (ht : ¬ t.isEndOfInput = true) : sc'.rest.length < sc.rest.length := by
  obtain ⟨-, -, ⟨-, rfl, -⟩ | ⟨hstep, hr, -⟩⟩ := next_cases h
  · exact absurd rfl ht
  · have hpos := List.length_pos_of_ne_nil hstep.lexeme.ne_nil
    rw [hr, List.length_append]
    omega

def pull (sc : Scanner) : Except ScanError (List Token) :=
  match _ : sc.next with
  | (.error e, _) => .error e
  | (.ok t, sc') =>
    if _ : t.isEndOfInput then .ok [t] else (pull sc').map (t :: ·)
termination_by sc.rest.length
decreasing_by
  apply rest_lt_of_next <;> assumption

theorem pull_eq (h : sc.stage = .scanning) : pull sc =
    match (Scan.run sc.position sc.rest).error? with
    | none => .ok (Scan.run sc.position sc.rest).tokens
    | some e => .error e := by
  fun_induction pull sc with
  | case1 sc e sc' hn =>
    obtain ⟨_, hn', hrun⟩ | ⟨hn', -⟩ | ⟨_, hn', -⟩ := next_scanning h <;>
      cases hn.symm.trans hn'
    rw [hrun]
  | case2 sc t sc' hn ht =>
    obtain ⟨_, hn', -⟩ | ⟨hn', hrun⟩ | ⟨_, hn', hf, -⟩ := next_scanning h <;>
      cases hn.symm.trans hn'
    · rw [hrun]
    · simp [hf] at ht
  | case3 sc t sc' hn ht ih =>
    obtain ⟨_, hn', -⟩ | ⟨hn', -⟩ | ⟨_, hn', -, -, hrun⟩ := next_scanning h <;>
      cases hn.symm.trans hn'
    · exact absurd rfl ht
    · rw [ih h, hrun, Scan.push]
      cases (Scan.run (sc.skip t).position (sc.skip t).rest).error? <;> rfl

/-- Whatever calls are made on a scanner and in whatever order, it hands out the tokens of its source
one after the other and stays where it ends. Pulling it dry is tokenizing. -/
theorem scanner_orderly (s : List Char) :
    (∀ cs, Orderly s cs (answers (Scanner.ofSource s) cs) (reached (Scanner.ofSource s) cs)) ∧
      pull (Scanner.ofSource s) = tokenize s := by
  constructor
  · intro cs
    obtain ⟨us, hb, hend, hlen⟩ := exists_brought s cs
    exact orderly_of_brought hb hend hlen
  · exact pull_eq rfl

example : answers (Scanner.ofSource ['1', '$']) [.next?, .next, .next?, .next] =
    [some (.ok ⟨.literal .number, ['1'], .start⟩),
      some (.error ⟨.unexpectedCharacter '$', ⟨0, 1, 1⟩⟩), none,
      some (.error ⟨.unexpectedCharacter '$', ⟨0, 1, 1⟩⟩)] := by
  decide

end XorScan.Lifecycle
