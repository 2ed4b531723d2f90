import XorScan.Log.Event
import XorScan.Text.Alphanumeric
import XorScan.Text.Blank

namespace XorScan.Log

/-- What a directive is about: the events of every origin that begins in one way, or those of them
that have a certain field; or something that no event has. -/
inductive Subject where
  | events (origin : List Char) (field? : Option String)
  | nothing
  deriving DecidableEq

namespace Subject

def everything : Subject := events [] none

def covers (s : Subject) (e : Event) : Bool :=
  match s with
  | events origin field? => origin.isPrefixOf e.origin.toList && field?.all e.fields.contains
  | nothing => false

/-- A longer origin is more specific, and for one origin a field is. Two fields are ordered by their
names. -/
def specificity (s : Subject) : Nat × Option String :=
  match s with
  | events origin field? => (origin.length, field?)
  | nothing => (0, none)

def isAsSpecificAs (s t : Subject) : Bool :=
  ((compare s.specificity.1 t.specificity.1).then
    (compare s.specificity.2 t.specificity.2)).isGE

end Subject

structure Directive where
  subject : Subject
  level : Level
  deriving DecidableEq

namespace Directive

def isOriginStart (c : Char) : Bool := c == '-' || c == ':' || c == '_' || Text.isAlphanumeric c

/-- Reads what stands behind an opening bracket, and the bracket that closes it: a span, or a field
in braces, or both. Events lie in no span, and no value of a field is asked for. -/
def bracketed? (origin s : List Char) : Option (Subject × List Char) :=
  let isName := fun c => c != ']' && c != '{'
  match s.dropWhile isName with
  | ']' :: r => some (.nothing, r)
  | '{' :: r =>
    let field := r.takeWhile (· != '}')
    match field, r.dropWhile (· != '}') with
    | [], _ => none
    | _, '}' :: ']' :: r =>
      if s.takeWhile isName = [] ∧ '=' ∉ field then
        some (.events origin (some (String.ofList field)), r)
      else some (.nothing, r)
    | _, _ => none
  | _ => none

def behindBrackets? (r : List Char) : Option (Option (List Char)) :=
  match r with
  | '=' :: l => some (some l)
  | _ => if r.all Text.isBlank then some none else none

def parts? (s : List Char) : Option (Subject × Option (List Char)) :=
  let isOrigin := fun c => c != '=' && c != '['
  let origin := s.takeWhile isOrigin
  match s.dropWhile isOrigin with
  | '[' :: r => do
    guard (origin.head?.all isOriginStart)
    let (subject, r) ← bracketed? origin r
    return (subject, ← behindBrackets? r)
  | r => do
    guard (origin.head?.any isOriginStart)
    return (.events origin none, if r = [] then none else some (r.drop 1))

/-- Reads a directive. A level alone is for everything, and a subject alone is shown whole. Behind a
blank a directive is about nothing, and it has no level. -/
def read? (s : List Char) : Option Directive := do
  let t := s.dropWhile Text.isBlank
  let (subject, level?) ← parts? t
  if t.length < s.length then
    guard level?.isNone
    return ⟨.nothing, .trace⟩
  match level? with
  | none =>
    match Level.read? t with
    | some l => return ⟨.everything, l⟩
    | none => return ⟨subject, .trace⟩
  | some [] => return ⟨subject, .trace⟩
  | some l => return ⟨subject, ← Level.read? l⟩

end Directive

abbrev Filter := List Directive

namespace Filter

def upTo (l : Level) : Filter := [⟨.everything, l⟩]

def read? (s : String) : Option Filter :=
  ((s.toList.splitOn ',').filter (· ≠ [])).mapM Directive.read?

/-- The directive that decides about an event: the most specific one about it, and of two that are
equally so the later. -/
def decisive? (f : Filter) (e : Event) : Option Directive :=
  (f.filter (·.subject.covers e)).foldl (fun best? d =>
    match best? with
    | some b => if d.subject.isAsSpecificAs b.subject then some d else some b
    | none => some d) none

def shows (f : Filter) (e : Event) : Bool :=
  (f.decisive? e).any fun d => e.level.rank ≤ d.level.rank

end Filter

end XorScan.Log
