import XorScan.Cursor
import XorScan.Scan

namespace XorScan

/-- Why scanning through a cursor stops: on an error, or on a range of bytes with an end inside a
character. -/
inductive CursorScan.Stop where
  | refused (e : ScanError)
  | insideCharacter
  deriving DecidableEq

theorem Cursor.length_lt_of_bump {k k' : Cursor} {c : Char} (h : k.bump = (some c, k')) :
    k'.rest.length < k.rest.length := by
  obtain ⟨source, rest, p⟩ := k
  cases rest with
  | nil => cases h
  | cons d r =>
    cases h
    exact Nat.lt_succ_self _

theorem Cursor.length_skipBytes_lt {k : Cursor} (h : k.rest ≠ []) (n : Nat) :
    (k.skipBytes (1 + n)).rest.length < k.rest.length := by
  obtain ⟨source, rest, p⟩ := k
  cases rest with
  | nil => exact absurd rfl h
  | cons c r =>
    simp only [skipBytes, skip, Nat.add_comm 1, covering, List.drop_succ_cons, List.length_drop,
      List.length_cons]
    omega

namespace CursorScan

def cut {α : Type} : Option α → Except Stop α
  | some a => .ok a
  | none => .error .insideCharacter

def toLineEnd (k : Cursor) : Cursor :=
  match _ : k.bump with
  | (none, _) => k
  | (some c, k') => if c = '\n' ∨ k.startsWith ['\r', '\n'] then k else toLineEnd k'
termination_by k.rest.length
decreasing_by exact Cursor.length_lt_of_bump ‹_›

def pastClosing? (k : Cursor) : Option Cursor :=
  match k.eatText ['*', '/'] with
  | (true, k') => some k'
  | (false, _) =>
    match _ : k.bump with
    | (none, _) => none
    | (some _, k') => pastClosing? k'
termination_by k.rest.length
decreasing_by exact Cursor.length_lt_of_bump ‹_›

section

-- The place of the token's first character: errors point to it, and its text is cut out from there.
variable (start : Position)

def refuse {α : Type} (f : Fault) : Except Stop α := .error (.refused ⟨f, start⟩)

def newline (k : Cursor) : Except Stop (Kind × Cursor) :=
  match k.eatText ['\r', '\n'] with
  | (true, k') => .ok (.trivia .newline, k')
  | (false, k') =>
    match k'.eat '\n' with
    | (true, k'') => .ok (.trivia .newline, k'')
    | (false, _) => refuse start (.unexpectedCharacter '\r')

def symbol (c : Char) (k : Cursor) : Except Stop (Kind × Cursor) :=
  match (Symbol.family c).find? fun y => k.startsWith y.spelling with
  | some y => .ok (.symbol y, k.skipBytes (Text.byteLength y.spelling))
  | none => refuse start (.unexpectedCharacter c)

def slash (k : Cursor) : Except Stop (Kind × Cursor) :=
  if k.startsWith ['/', '/'] then .ok (.trivia .comment, toLineEnd (k.eatText ['/', '/']).2)
  else if k.startsWith ['/', '*'] then
    match pastClosing? (k.eatText ['/', '*']).2 with
    | some k' => .ok (.trivia .comment, k')
    | none => refuse start .unterminatedComment
  else symbol start '/' k

def word (k : Cursor) : Except Stop (Kind × Cursor) := do
  let k' := (k.eatWhile CharClass.isIdentContinue).2
  let w ← cut (k'.sliceFrom? start.offset)
  return ((Kind.reserved? (String.ofList w)).getD (.literal .identifier), k')

def number (k : Cursor) : Kind × Cursor :=
  let k' := (k.eatWhile Char.isDigit).2
  if k'.current = some '.' ∧ (k'.peek 1).any Char.isDigit then
    (.literal .decimal, (k'.bump.2.eatWhile Char.isDigit).2)
  else (.literal .number, k')

def pastEscape (d : Char) (k : Cursor) : Except Stop Cursor :=
  if k.peek 1 = none ∨ k.peek 1 = some '\n' then refuse start (.unterminatedLiteral d)
  else
    match Text.slice? k.rest 1 (Text.byteLength k.rest) with
    | none => .error .insideCharacter
    | some r =>
      match Escape.decode r with
      | .error e => .error (.refused ⟨.invalidEscape e, k.position⟩)
      | .ok (_, n) => .ok (k.skipBytes (1 + n))

theorem length_lt_of_pastEscape {start : Position} {d : Char} {k k' : Cursor}
    (h : pastEscape start d k = .ok k') : k'.rest.length < k.rest.length := by
  unfold pastEscape at h
  split at h
  · cases h
  next hp =>
    have hrest : k.rest ≠ [] := by
      intro hnil
      simp [Cursor.peek, hnil] at hp
    split at h
    · cases h
    · split at h
      · cases h
      · cases h
        exact Cursor.length_skipBytes_lt hrest _

/-- Past the closing quote of a literal that has had `n` units so far, with the number of all. -/
def pastUnits (d : Char) (k : Cursor) (n : Nat) : Except Stop (Nat × Cursor) :=
  match h : k.bump with
  | (none, _) => refuse start (.unterminatedLiteral d)
  | (some c, k') =>
    if c = '\n' then refuse start (.unterminatedLiteral d)
    else if c = d then .ok (n, k')
    else if c = '\\' then
      match he : pastEscape start d k with
      | .error e => .error e
      | .ok k' => pastUnits d k' (n + 1)
    else pastUnits d k' (n + 1)
termination_by k.rest.length
decreasing_by
  · exact length_lt_of_pastEscape he
  · exact Cursor.length_lt_of_bump h

def quoted (d : Char) (k : Cursor) : Except Stop (Kind × Cursor) := do
  let (n, k') ← pastUnits start d k.bump.2 0
  if d = '"' then return (.literal .string, k')
  else if n = 1 then return (.literal .character, k')
  else refuse start .invalidCharLiteral

def lexeme (c : Char) (k : Cursor) : Except Stop (Kind × Cursor) :=
  match CharClass.of c with
  | .newline => newline start k
  | .space => .ok (.trivia .space, k.bump.2)
  | .tab => .ok (.trivia .tab, k.bump.2)
  | .slash => slash start k
  | .symbol => symbol start c k
  | .identStart => word start k
  | .digit => .ok (number k)
  | .quote => quoted start c k
  | .other => refuse start (.unexpectedCharacter c)

end

/-- The token at the cursor, and the cursor behind it. -/
def scan (k : Cursor) : Except Stop (Token × Cursor) :=
  match k.current with
  | none => .ok (Token.endOfInput k.position, k)
  | some c => do
    let (kind, k') ← lexeme k.position c k
    let text ← cut (k'.sliceFrom? k.position.offset)
    return (⟨kind, text, k.position⟩, k')

end CursorScan

end XorScan
