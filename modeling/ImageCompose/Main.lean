import ImageCompose.Config.CommandLine
import ImageCompose.Http.Exchange

/-!
# The program

Reads the settings from the command line and the environment, checks them, and answers requests over
a store in memory: each line of standard input is a request, each line of standard output is the
response to it.
-/

open ImageCompose

/-- The environment variables that settings are read from. -/
def settingVariables : List String :=
  Config.localSaveVariable :: Config.Setting.all.map (·.environmentVariable)

/-- A random number of 128 bits. -/
def drawRandom : IO Nat := do
  let bytes ← IO.getRandomBytes 16
  return bytes.toList.foldl (fun n byte => n * 256 + byte.toNat) 0

/-- Answers requests until the input ends. -/
partial def serveLines (config : Config) (stdin stdout : IO.FS.Stream) (s : IndexedStore) :
    IO Unit := do
  let line ← stdin.getLine
  if line.isEmpty then return
  let (answer, s) := Http.exchange config (← drawRandom) line s
  stdout.putStr (answer.render ++ "\n")
  stdout.flush
  serveLines config stdin stdout s

/-- Serves over a store in memory with the settings of the command line and the environment. -/
def main (args : List String) : IO UInt32 := do
  let values ← settingVariables.mapM fun name => return (name, ← IO.getEnv name)
  match Config.load args fun name => (values.lookup name).join with
  | .error fault =>
    IO.eprintln fault.name
    return if fault = .displayHelp then 0 else 2
  | .ok config =>
    match config.validate with
    | .error invalid =>
      IO.eprintln ("invalid configuration: " ++ invalid.message)
      return 1
    | .ok () =>
      serveLines config (← IO.getStdin) (← IO.getStdout) {}
      return 0
