import Adjudication.CommandLine.Run

/-!
# The program

Reads the files that the command line names, runs, and prints.
-/

open Adjudication CommandLine

def readText (path : String) : IO Contents := do
  try
    return Contents.ofBytes (← IO.FS.readBinFile path)
  catch
    | .noFileOrDirectory .. => return .error .missing
    | .inappropriateType _ code _ => return .error (if code = 21 then .isFolder else .notAFolder)
    | .invalidArgument .. => return .error .tooLong
    | error => throw error

def main (words : List String) : IO UInt32 := do
  let environment ← Environment.ofVariables fun name => IO.getEnv name
  let paths := match Request.ofWords? environment.config words with
    | some (.selection arguments) => arguments.config.toList ++ [arguments.declarations]
    | _ => []
  let readings ← paths.mapM fun path => return (path, ← readText path)
  let outcome := run words environment fun path => (readings.lookup path).getD (.error .missing)
  (← IO.getStdout).putStr outcome.output
  (← IO.getStderr).putStr (outcome.report ++ outcome.complaint .brief)
  return UInt32.ofNat outcome.exitCode
