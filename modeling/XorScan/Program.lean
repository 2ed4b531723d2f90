import XorScan.Arguments.Invocation
import XorScan.Command
import XorScan.Config
import XorScan.Log.Filter

namespace XorScan

/-- All that a run of the program depends on, its arguments apart. -/
structure World where
  files : Files
  stdin : ByteArray
  environment : Arguments.Environment
  userConfig? : Option String
  stdout : Device

/-- What a run of the program leaves behind. Log lines are not kept, only whether there were any. -/
structure Outcome where
  status : Nat
  stdout : String
  stderr : String
  logged : Bool
  deriving DecidableEq

namespace Program

open Arguments

def version : String := "0.0.1"

def usage : Level → String
  | .top => "Usage: xorc [OPTIONS] <COMMAND>\n\nCommands: tokens, check, help\n" ++
      "Options: -v, --verbose; -c, --config <CONFIG>; --no-color; -h, --help; -V, --version\n"
  | .tokens => "Usage: xorc tokens [OPTIONS] <INPUT>\n\n" ++
      "Options: -F, --format <text|json>; --no-trivia; -v, --verbose; -c, --config <CONFIG>; " ++
      "--no-color; -h, --help; -V, --version\n"
  | .check => "Usage: xorc check [OPTIONS] <INPUT>\n\n" ++
      "Options: -v, --verbose; -c, --config <CONFIG>; --no-color; -h, --help; -V, --version\n"

def halt : Halt → Outcome
  | .help l => ⟨0, usage l, "", false⟩
  | .version l => ⟨0, l.programName ++ " " ++ version ++ "\n", "", false⟩
  | .misuse m => ⟨2, "", "error: " ++ m.message ++ "\n\n" ++ usage .top, false⟩

def logVariable : String := "RUST_LOG"

/-- What the log of a run shows. A verbose run shows its details whatever the environment says. -/
def logFilter (w : World) (i : Invocation) (c : Config) : Log.Filter :=
  if i.verbose || c.verbose then .upTo .debug
  else ((w.environment.lookup logVariable).bind Log.Filter.read?).getD (.upTo .info)

/-- The command line has the last word on the listing. -/
def command (c : Config) : Action → Command
  | .tokens input format? noTrivia =>
    .tokens input (format?.getD c.format) (c.trivia && !noTrivia)
  | .check input => .check input

def consulted (w : World) (args : List String) : List String :=
  match parse w.environment args with
  | .error _ => []
  | .ok i =>
    let config := match i.config? with
      | some path => [path]
      | none => Config.candidates w.userConfig?
    config ++ [i.action.input].filter (· ≠ stdinName)

def readsStdin (w : World) (args : List String) : Bool :=
  match parse w.environment args with
  | .error _ => false
  | .ok i => i.action.input = stdinName

/-- How a run reads its command line and its configuration. -/
structure Readers where
  arguments : Environment → List String → Except Halt Invocation
  config : Config.TextReader

def Readers.standard : Readers := ⟨parse, Config.read⟩

def carryOut (r : Readers) (w : World) (i : Invocation) : Outcome :=
  match Config.loadWith r.config w.files w.userConfig? i.config? with
  | .error f => ⟨1, "", f.report ["failed to load configuration"], false⟩
  | .ok c =>
    let cmd := command c i.action
    let logged := (cmd.events w.files w.stdin).any (logFilter w i c).shows
    match cmd.run w.files w.stdin w.stdout with
    | (out, none) => ⟨0, out, "", logged⟩
    | (out, some f) => ⟨1, out, f.report [], logged⟩

def runWith (r : Readers) (w : World) (args : List String) : Outcome :=
  match r.arguments w.environment args with
  | .error h => halt h
  | .ok i => carryOut r w i

def run : World → List String → Outcome := runWith .standard

end Program

end XorScan
