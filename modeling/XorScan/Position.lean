import XorScan.Text.Bytes

namespace XorScan

def tabWidth : Nat := 4

/-- A point between two characters of a text. The line counts the line feeds before it, the column
counts display columns since the last of them, and the offset counts UTF-8 bytes. The counters are
taken without overflow: 32 bits hold line and column of any text short of a gibibyte
(`PositionCounts.counters_fit`). -/
structure Position where
  line : Nat
  column : Nat
  offset : Nat
  deriving DecidableEq

namespace Position

def start : Position := ⟨0, 0, 0⟩

def advance (p : Position) (c : Char) : Position :=
  if c = '\n' then ⟨p.line + 1, 0, p.offset + c.utf8Size⟩
  else if c = '\t' then ⟨p.line, p.column + tabWidth, p.offset + c.utf8Size⟩
  else ⟨p.line, p.column + 1, p.offset + c.utf8Size⟩

def advanceAll (p : Position) (s : List Char) : Position := s.foldl advance p

@[simp] theorem advanceAll_nil (p : Position) : p.advanceAll [] = p := rfl

@[simp] theorem advanceAll_cons (p : Position) (c : Char) (s : List Char) :
    p.advanceAll (c :: s) = (p.advance c).advanceAll s := rfl

theorem advanceAll_append (p : Position) (s t : List Char) :
    p.advanceAll (s ++ t) = (p.advanceAll s).advanceAll t := List.foldl_append

theorem offset_advance (p : Position) (c : Char) :
    (p.advance c).offset = p.offset + c.utf8Size := by
  unfold advance
  split
  · rfl
  · split <;> rfl

theorem offset_advanceAll (p : Position) (s : List Char) :
    (p.advanceAll s).offset = p.offset + Text.byteLength s := by
  induction s generalizing p with
  | nil => rfl
  | cons c s ih =>
    rw [advanceAll_cons, ih, offset_advance, Text.byteLength_cons, Nat.add_assoc]

def path (p : Position) : List Char → List Position
  | [] => [p]
  | c :: s => p :: path (p.advance c) s

instance : Ord Position where
  compare p q := (compare p.line q.line).then <|
    (compare p.column q.column).then (compare p.offset q.offset)

def displayLine (p : Position) : Nat := p.line + 1

def displayColumn (p : Position) : Nat := p.column + 1

def display (p : Position) : String := s!"{p.displayLine}:{p.displayColumn}"

end Position

end XorScan
