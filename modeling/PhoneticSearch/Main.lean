import PhoneticSearch.CommandLine.Commands

/-!
# The program

Reads the files that a command mentions, runs the command and prints what it gives.
-/

namespace PhoneticSearch

def readFaultOf : IO.Error → ReadFault
  | .noFileOrDirectory .. => .notFound
  | .inappropriateType _ 21 _ => .isDirectory
  | .inappropriateType .. => .notDirectory
  | .invalidArgument _ 22 _ => .nulInPath
  | .invalidArgument .. => .nameTooLong
  | reason => .other reason.toString

def readPath (path : String) : IO (String × Except ReadFault (List UInt8)) := do
  match ← (IO.FS.readBinFile path).toBaseIO with
  | .ok bytes => return (path, .ok bytes.toList)
  | .error reason => return (path, .error (readFaultOf reason))

def readPaths (paths : List String) : IO Files := do
  return .ofReadings (← paths.mapM readPath)

def runCommand (command : Command) : IO UInt32 := do
  let configuration ← readPaths [command.config]
  let files ← readPaths (command.config :: command.paths configuration)
  let outcome := command.run files
  IO.eprint (Outcome.printed outcome.warnings)
  IO.print (Outcome.printed outcome.output)
  match outcome.failure with
  | none => return 0
  | some fault =>
    IO.eprintln ("Error: " ++ fault.message)
    return 1

end PhoneticSearch

open PhoneticSearch in
def main (arguments : List String) : IO UInt32 := do
  match Invocation.ofArguments arguments with
  | .ok invocation => runCommand invocation.command
  | .error fault =>
    IO.eprintln ("Error: " ++ fault.message)
    return 2
