import XorScan.Scan

namespace XorScan.Translation

/-- The place in a text that lies at `q` when the text before it ends at `p`. Columns move only on
the first line. -/
def shift (p q : Position) : Position :=
  ⟨p.line + q.line, q.column + (if q.line = 0 then p.column else 0), p.offset + q.offset⟩

def shiftToken (p : Position) (t : Token) : Token := ⟨t.kind, t.text, shift p t.position⟩

def shiftError (p : Position) (e : ScanError) : ScanError := ⟨e.fault, shift p e.position⟩

def shiftResult (p : Position) : Except ScanError Token → Except ScanError Token
  | .ok t => .ok (shiftToken p t)
  | .error e => .error (shiftError p e)

def shiftScan (p : Position) (s : Scan) : Scan :=
  ⟨s.tokens.map (shiftToken p), s.error?.map (shiftError p)⟩

theorem shift_start (p : Position) : shift p .start = p := by
  simp [shift, Position.start]

theorem advance_shift (p q : Position) (c : Char) :
    (shift p q).advance c = shift p (q.advance c) := by
  unfold Position.advance
  split
  · simp [shift, Nat.add_assoc]
  · split <;> simp [shift] <;> omega

theorem advanceAll_shift (p q : Position) (s : List Char) :
    (shift p q).advanceAll s = shift p (q.advanceAll s) := by
  induction s generalizing q with
  | nil => rfl
  | cons c s ih => rw [Position.advanceAll_cons, Position.advanceAll_cons, advance_shift, ih]

theorem front_shift_ok {p q : Position} {c : Char} {r : List Char} {t : Token}
    (h : Token.front q c r = .ok t) : Token.front (shift p q) c r = .ok (shiftToken p t) := by
  unfold Token.front at h ⊢
  split at h
  · cases h
    rfl
  · cases h

theorem front_shift_error {p q : Position} {c : Char} {r : List Char} {e : ScanError}
    (h : Token.front q c r = .error e) :
    Token.front (shift p q) c r = .error (shiftError p e) := by
  unfold Token.front at h ⊢
  split at h
  · cases h
  · cases h
    rw [advanceAll_shift]
    rfl

/-- Scanning does not depend on where the text begins. -/
theorem run_shift (p q : Position) (s : List Char) :
    Scan.run (shift p q) s = shiftScan p (Scan.run q s) := by
  fun_induction Scan.run q s with
  | case1 q =>
    rw [Scan.run]
    rfl
  | case2 q c r e he =>
    rw [Scan.run, front_shift_error he]
    rfl
  | case3 q c r t ht ih =>
    rw [Scan.run, front_shift_ok ht]
    dsimp only [shiftToken]
    rw [advanceAll_shift, ih]
    rfl

theorem run_eq_shiftScan (p : Position) (s : List Char) :
    Scan.run p s = shiftScan p (Scan.run .start s) := by
  rw [← run_shift, shift_start]

end XorScan.Translation
