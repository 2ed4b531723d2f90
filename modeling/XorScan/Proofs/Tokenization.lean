import XorScan.Proofs.MaximalMunch
import XorScan.Scan

namespace XorScan.Tokenization

open LexicalGrammar MaximalMunch

/-- Steps repeated from the front of a text, what each of them takes, and what they leave. -/
inductive Munches : List Char → List (Kind × List Char) → List Char → Prop
  | done {r : List Char} : Munches r [] r
  | step {w r t : List Char} {k : Kind} {ls : List (Kind × List Char)} (h : Step (w ++ r) k w)
      (hr : Munches r ls t) : Munches (w ++ r) ((k, w) :: ls) t

def spelled (ls : List (Kind × List Char)) : List Char := ls.flatMap Prod.snd

/-- Pieces that follow each other from `p` on, as tokens. -/
def place (p : Position) : List (Kind × List Char) → List Token
  | [] => []
  | (k, w) :: ls => ⟨k, w, p⟩ :: place (p.advanceAll w) ls

def after (ts : List Token) (s : Scan) : Scan := ⟨ts ++ s.tokens, s.error?⟩

theorem after_append (ts us : List Token) (s : Scan) : after (ts ++ us) s = after ts (after us s) := by
  simp [after]

theorem texts_place (p : Position) (ls : List (Kind × List Char)) :
    (place p ls).flatMap Token.text = spelled ls := by
  induction ls generalizing p with
  | nil => rfl
  | cons l ls ih => simp [place, spelled, ih]

theorem mem_of_mem_place {p : Position} {ls : List (Kind × List Char)} {t : Token}
    (h : t ∈ place p ls) : (t.kind, t.text) ∈ ls := by
  induction ls generalizing p with
  | nil => cases h
  | cons l ls ih =>
    obtain rfl | h := List.mem_cons.mp h
    · exact List.mem_cons_self
    · exact List.mem_cons_of_mem l (ih h)

theorem munches_lexeme {k : Kind} {w : List Char} (h : IsLexeme k w) : Munches w [(k, w)] [] := by
  have hstep : Step (w ++ []) k w := by
    rw [List.append_nil]
    exact step_self h
  simpa using Munches.step hstep .done

theorem Munches.isLexeme_of_mem {s t : List Char} {ls : List (Kind × List Char)}
    (h : Munches s ls t) : ∀ l ∈ ls, IsLexeme l.1 l.2 := by
  induction h with
  | done => simp
  | step h hr ih => simpa using ⟨h.lexeme, by simpa using ih⟩

theorem Munches.eq_append {s t : List Char} {ls : List (Kind × List Char)} (h : Munches s ls t) :
    s = spelled ls ++ t := by
  induction h with
  | done => rfl
  | step h hr ih =>
    rw [ih]
    simp [spelled]

theorem front_of_step {p : Position} {c : Char} {x r : List Char} {k : Kind}
    (h : Step (c :: x ++ r) k (c :: x)) : Token.front p c (x ++ r) = .ok ⟨k, c :: x, p⟩ := by
  obtain ⟨l, hl, rfl, hx⟩ := step_iff_front.mp h
  change Lexeme.front c (x ++ r) = .ok l at hl
  change c :: x = c :: (x ++ r).take l.tail at hx
  rw [Token.front, hl, hx]

theorem step_of_front {p : Position} {c : Char} {r : List Char} {t : Token}
    (h : Token.front p c r = .ok t) :
    t.position = p ∧ Step (c :: r) t.kind t.text ∧
      c :: r = t.text ++ r.drop (t.text.length - 1) := by
  unfold Token.front at h
  split at h
  next l hl =>
    cases h
    have hle := Lexeme.front_tail_le hl
    refine ⟨rfl, step_iff_front.mpr ⟨l, hl, rfl, rfl⟩, ?_⟩
    simp [Nat.min_eq_left hle]
  · cases h

theorem refusal_of_front {p : Position} {c : Char} {r : List Char} {e : ScanError}
    (h : Token.front p c r = .error e) :
    ∃ f, Lexeme.front c r = .error f ∧
      e = ⟨f.fault, p.advanceAll ((c :: r).take f.distance)⟩ := by
  unfold Token.front at h
  split at h
  · cases h
  next f hf =>
    cases h
    exact ⟨f, hf, rfl⟩

theorem run_step {p : Position} {w r : List Char} {k : Kind} (h : Step (w ++ r) k w) :
    Scan.run p (w ++ r) = after [⟨k, w, p⟩] (Scan.run (p.advanceAll w) r) := by
  obtain ⟨c, x, rfl⟩ := List.exists_cons_of_ne_nil h.lexeme.ne_nil
  have hf := front_of_step (p := p) h
  rw [List.cons_append, Scan.run, hf]
  simp [Scan.push, after]

theorem run_of_munches {s t : List Char} {ls : List (Kind × List Char)} (h : Munches s ls t)
    (p : Position) :
    Scan.run p s = after (place p ls) (Scan.run (p.advanceAll (spelled ls)) t) := by
  induction h generalizing p with
  | done => rfl
  | step h hr ih =>
    rw [run_step h, ih, ← after_append]
    simp [place, spelled, Position.advanceAll_append]

theorem exists_munches (s : List Char) :
    ∃ ls t, Munches s ls t ∧ ∀ c r, t = c :: r → ∃ f, Lexeme.front c r = .error f := by
  fun_induction Scan.run Position.start s with
  | case1 p => exact ⟨[], [], .done, by simp⟩
  | case2 p c r e he =>
    obtain ⟨f, hf, -⟩ := refusal_of_front he
    refine ⟨[], c :: r, .done, ?_⟩
    rintro _ _ ⟨⟩
    exact ⟨f, hf⟩
  | case3 p c r t ht ih =>
    obtain ⟨-, hstep, happ⟩ := step_of_front ht
    obtain ⟨ls, u, hm, hu⟩ := ih
    rw [happ] at hstep ⊢
    exact ⟨(t.kind, t.text) :: ls, u, .step hstep hm, hu⟩

theorem run_nil (p : Position) : Scan.run p [] = ⟨[Token.endOfInput p], none⟩ := by
  rw [Scan.run]

theorem run_refused {p : Position} {c : Char} {r : List Char} {f : Refusal}
    (h : Lexeme.front c r = .error f) :
    Scan.run p (c :: r) = ⟨[], some ⟨f.fault, p.advanceAll ((c :: r).take f.distance)⟩⟩ := by
  rw [Scan.run, Token.front, h]

theorem tokenize_of_munches {s : List Char} {ls : List (Kind × List Char)} (h : Munches s ls []) :
    tokenize s = .ok (place .start ls ++ [Token.endOfInput (Position.start.advanceAll s)]) := by
  have hs : s = spelled ls := by simpa using h.eq_append
  rw [tokenize, run_of_munches h, run_nil, ← hs]
  rfl

/-- A scan either consumes its source by steps or stops where no step can be taken. -/
theorem run_cases (s : List Char) :
    (∃ ls, Munches s ls []) ∨ ∃ ls c r f, Munches s ls (c :: r) ∧ Lexeme.front c r = .error f ∧
      Scan.run .start s = ⟨place .start ls, some ⟨f.fault,
        (Position.start.advanceAll (spelled ls)).advanceAll ((c :: r).take f.distance)⟩⟩ := by
  obtain ⟨ls, t, hm, ht⟩ := exists_munches s
  cases t with
  | nil => exact .inl ⟨ls, hm⟩
  | cons c r =>
    obtain ⟨f, hf⟩ := ht c r rfl
    refine .inr ⟨ls, c, r, f, hm, hf, ?_⟩
    rw [run_of_munches hm, run_refused hf]
    simp [after]

theorem tokenize_of_error {s : List Char} {e : ScanError} (h : (Scan.run .start s).error? = some e) :
    tokenize s = .error e := by
  simp [tokenize, h]

theorem munches_of_tokenize {s : List Char} {ts : List Token} (h : tokenize s = .ok ts) :
    ∃ ls, Munches s ls [] ∧
      ts = place .start ls ++ [Token.endOfInput (Position.start.advanceAll s)] := by
  obtain ⟨ls, hm⟩ | ⟨ls, c, r, f, -, -, hrun⟩ := run_cases s
  · rw [tokenize_of_munches hm] at h
    cases h
    exact ⟨ls, hm, rfl⟩
  · rw [tokenize_of_error (by rw [hrun])] at h
    cases h

theorem texts_of_tokenize {s : List Char} {ts : List Token} (h : tokenize s = .ok ts) :
    ts.flatMap Token.text = s := by
  obtain ⟨ls, hm, rfl⟩ := munches_of_tokenize h
  have hs : s = spelled ls := by simpa using hm.eq_append
  rw [List.flatMap_append, texts_place, ← hs]
  simp [Token.endOfInput]

/-- A source is tokenized exactly when repeated steps consume all of it, and the pieces that they
take are then its tokens, up to the end of input. -/
theorem tokenize_eq_ok_iff (s : List Char) (ts : List Token) :
    tokenize s = .ok ts ↔ ∃ ls, Munches s ls [] ∧
      ts = place .start ls ++ [Token.endOfInput (Position.start.advanceAll s)] := by
  constructor
  · exact munches_of_tokenize
  · rintro ⟨ls, hm, rfl⟩
    exact tokenize_of_munches hm

end XorScan.Tokenization
