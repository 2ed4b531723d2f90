import XorScan.Program

namespace XorScan.Console

open Arguments

/-- The number of an error, which may come with its sign turned, tells apart what one constructor
joins. -/
def ioError (e : IO.Error) : IoError :=
  match e with
  | .noFileOrDirectory .. => .notFound
  | .inappropriateType _ code text | .resourceExhausted _ code text =>
    let n := min code (0 - code)
    if n = 20 then .notADirectory
    else if n = 21 then .isADirectory
    else if n = 28 then .noSpace
    else .other text
  | e => .other (toString e)

def readFile (path : String) : IO (Except IoError ByteArray) := do
  try return .ok (← IO.FS.readBinFile path)
  catch e => return .error (ioError e)

def snapshot (contents : List (String × Except IoError ByteArray)) : Files where
  contains path := match contents.lookup path with
    | some (.error .notFound) | some (.error .notADirectory) | none => false
    | _ => true
  read path := (contents.lookup path).getD (.error .notFound)

def userConfig? : IO (Option String) := do
  let place := "/xorc/" ++ Config.fileName
  match ← IO.getEnv "XDG_CONFIG_HOME" with
  | some dir => if dir.startsWith "/" then return some (dir ++ place)
  | none => pure ()
  return (← IO.getEnv "HOME").map (· ++ "/.config" ++ place)

def environment : IO Environment := do
  let names := globals.filterMap Argument.variableName? ++ [Program.logVariable]
  let found ← names.mapM fun n => do return (← IO.getEnv n).map (n, ·)
  return found.filterMap id

/-- Runs the program on the world as it is. When the output cannot be written, the run is that of a
device that takes nothing. -/
def run (args : List String) : IO UInt32 := do
  let nothing := snapshot []
  let blank : World := ⟨nothing, .empty, ← environment, ← userConfig?, .unbounded⟩
  let paths := Program.consulted blank args
  let contents ← paths.mapM fun p => do return (p, ← readFile p)
  let stdin ←
    if Program.readsStdin blank args then (← IO.getStdin).readBinToEnd else pure .empty
  let world := { blank with files := snapshot contents, stdin := stdin }
  let planned := Program.run world args
  let outcome ←
    try
      (← IO.getStdout).putStr planned.stdout
      (← IO.getStdout).flush
      pure planned
    catch e => pure (Program.run { world with stdout := ⟨some 0, ioError e⟩ } args)
  (← IO.getStderr).putStr outcome.stderr
  return outcome.status.toUInt32

end XorScan.Console

def main (args : List String) : IO UInt32 := XorScan.Console.run args
