import XorScan.Arguments.Grammar

namespace XorScan.Arguments

/-- What one level of a command line has given so far. A value that stands by itself is only checked
when the next argument comes, and so is an option that still waits for its value. -/
structure Reading where
  given : List (Argument × String)
  pending? : Option (Argument × Option String)
  trailing : Bool

namespace Reading

def initial : Reading := ⟨[], none, false⟩

def get? (r : Reading) (a : Argument) : Option String := r.given.lookup a

def store (r : Reading) (a : Argument) (v : String) : Except Halt Reading :=
  if (r.get? a).isSome then .error (.misuse .argumentConflict)
  else if a.admits v then .ok { r with given := (a, v) :: r.given }
  else .error (.misuse .invalidValue)

def settle (r : Reading) : Except Halt Reading :=
  match r.pending? with
  | none => .ok r
  | some (_, none) => .error (.misuse .invalidValue)
  | some (a, some v) => ({ r with pending? := none } : Reading).store a v

def flag (l : Level) (a : Argument) (r : Reading) : Except Halt Reading := do
  let r ← r.settle
  match a with
  | .help => .error (.help l)
  | .version => .error (.version l)
  | _ => r.store a "true"

def option (a : Argument) (attached? : Option String) (r : Reading) : Except Halt Reading := do
  let r ← r.settle
  match attached? with
  | some v => r.store a v
  | none => return { r with pending? := some (a, none) }

def long (l : Level) (name : String) (value? : Option String) (r : Reading) :
    Except Halt Reading :=
  match l.long? name with
  | none => .error (.misuse .unknownArgument)
  | some a =>
    if a.takesValue then r.option a value?
    else if value?.isSome then .error (.misuse .tooManyValues)
    else r.flag l a

/-- Takes short options in a row. The first that takes a value takes all that follows, without an
equals sign in front. -/
def short (l : Level) (r : Reading) : List Char → Except Halt Reading
  | [] => .ok r
  | c :: cs =>
    match l.short? c with
    | none => .error (.misuse .unknownArgument)
    | some a =>
      if a.takesValue then
        r.option a (match cs with
          | [] => none
          | '=' :: v => some (String.ofList v)
          | v => some (String.ofList v))
      else do
        let r ← r.flag l a
        r.short l cs

def awaitsValue (r : Reading) : Option Argument :=
  match r.pending? with
  | some (a, none) => some a
  | _ => none

def hasInput (r : Reading) : Bool :=
  (r.get? .input).isSome || (r.pending?.map (·.1)) == some .input

def positional (l : Level) (v : String) (r : Reading) : Except Halt Reading :=
  if l = .top then
    if r.trailing && ((Level.subcommand? v).isSome || v == "help") then
      .error (.misuse .unknownArgument)
    else .error (.misuse .invalidSubcommand)
  else if r.hasInput then .error (.misuse .unknownArgument)
  else do
    let r ← r.settle
    return { r with pending? := some (.input, some v) }

def helpTopic : List String → Halt
  | [] => .help .top
  | [w] =>
    if w = "help" then .help .top
    else match Level.subcommand? w with
      | some l => .help l
      | none => .misuse .invalidSubcommand
  | _ => .misuse .invalidSubcommand

def splitLong (s : List Char) : String × Option String :=
  (String.ofList (s.takeWhile (· ≠ '=')),
    match s.dropWhile (· ≠ '=') with
    | [] => none
    | _ :: v => some (String.ofList v))

def take (l : Level) (arg : String) (r : Reading) : Except Halt Reading :=
  if r.trailing then r.positional l arg
  else
    match arg.toList with
    | ['-', '-'] => .ok { r with trailing := true }
    | '-' :: '-' :: s => let (name, value?) := splitLong s; r.long l name value?
    | '-' :: c :: cs => r.short l (c :: cs)
    | _ =>
      match r.awaitsValue with
      | some a => .ok { r with pending? := some (a, some arg) }
      | none => r.positional l arg

def run (l : Level) (r : Reading) :
    List String → Except Halt (Reading × Option (Level × List String))
  | [] => .ok (r, none)
  | arg :: args =>
    let open? := l = .top && !r.trailing && r.awaitsValue.isNone
    if open? && arg == "help" then .error (helpTopic args)
    else
      match if open? then Level.subcommand? arg else none with
      | some sub => .ok (r, some (sub, args))
      | none => do
        let r ← r.take l arg
        r.run l args

end Reading

end XorScan.Arguments
