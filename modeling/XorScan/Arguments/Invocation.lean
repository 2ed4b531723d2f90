import XorScan.Arguments.Reading

namespace XorScan.Arguments

inductive Action where
  | tokens (input : String) (format? : Option OutputFormat) (noTrivia : Bool)
  | check (input : String)
  deriving DecidableEq

def Action.input : Action → String
  | tokens input _ _ => input
  | check input => input

structure Invocation where
  verbose : Bool
  config? : Option String
  noColor : Bool
  action : Action
  deriving DecidableEq

def globals : List Argument := [.verbose, .config, .noColor]

abbrev Environment := List (String × String)

def Environment.get? (env : Environment) (a : Argument) : Option String :=
  a.variableName?.bind (List.lookup · env)

/-- Ends a level: nothing is pending, and the environment has good values for what is not given. -/
def Reading.finish (env : Environment) (r : Reading) : Except Halt Reading := do
  let r ← r.settle
  if globals.all fun a => (r.get? a).isSome || (env.get? a).all a.admits then return r
  else throw (.misuse .invalidValue)

/-- The value of a global option: behind the subcommand, before it, or in the environment. -/
def globalValue? (env : Environment) (outer inner : Reading) (a : Argument) : Option String :=
  (inner.get? a).or ((outer.get? a).or (env.get? a))

def action? (l : Level) (r : Reading) : Option Action :=
  (r.get? .input).map fun input =>
    if l = .tokens then
      .tokens input ((r.get? .format).bind OutputFormat.ofName?) (r.get? .noTrivia).isSome
    else .check input

/-- Reads a command line. Of several faults, one behind the subcommand comes first. -/
def parse (env : Environment) (args : List String) : Except Halt Invocation := do
  let (outer, sub?) ← Reading.initial.run .top args
  match sub? with
  | none =>
    let outer ← outer.finish env
    if outer.given.isEmpty && globals.all fun a => (env.get? a).isNone then
      throw (.misuse .nothingGiven)
    else throw (.misuse .missingSubcommand)
  | some (sub, rest) =>
    let (inner, _) ← Reading.initial.run sub rest
    let inner ← inner.finish env
    match action? sub inner with
    | none => throw (.misuse .missingInput)
    | some action =>
      let outer ← outer.finish env
      let value? := globalValue? env outer inner
      return ⟨value? .verbose == some "true", value? .config, value? .noColor == some "true",
        action⟩

end XorScan.Arguments
