import ReplicaQuorum.Command.Arguments
import ReplicaQuorum.Command.Response

/-!
# The program

Reads the command line and the files that a command asks for, and writes what the command reports.
-/

namespace ReplicaQuorum

/-- What there is to read at a path. -/
def readPath (path : String) : IO FileContents := do
  try
    let contents ← IO.FS.readBinFile path
    return .bytes contents.toList
  catch e =>
    match e with
    | .noFileOrDirectory .. => return .absent
    | e => return .unreadable (toString e)

/-- How the program is called. The words are its own, here and where a command line is refused, and
not those of a library that reads command lines. -/
def help : String :=
  "Inspect segment memberships and their I/O quorum policy\n\n"
    ++ "Usage: segquorum <COMMAND>\n\n"
    ++ "Commands:\n"
    ++ "  decode       --content <CONTENT>\n"
    ++ "  form         --content <CONTENT> [--volume-type <VOLUME_TYPE>]\n"
    ++ "  check-write  --content <CONTENT> --write-quorum <N> [--good-secondaries <N>]\n"
    ++ "               [--good-joining <N>] [--good-arbiters <N>]\n"
    ++ "  history      [--config <CONFIG>] --segment <SEGMENT>\n"
    ++ "  help"

/-- The name and version of the program. -/
def versionLine : String := "segquorum 0.1.0"

/-- Answers a command line that is no command. -/
def complain : Usage → IO UInt32
  | .help => do
    IO.println help
    return 0
  | .version => do
    IO.println versionLine
    return 0
  | .helpForMissing => do
    IO.eprintln help
    return 2
  | usage => do
    IO.eprintln s!"error: {usage.name}\n\n{help}"
    return 2

/-- Runs a command and writes its report. -/
def runCommand (c : Command) : IO UInt32 := do
  let report := Report.ofAnswer (← c.run readPath)
  report.err.forM IO.eprintln
  report.out.forM IO.println
  report.complaint.forM IO.eprintln
  return report.exitCode

end ReplicaQuorum

/-- The program. -/
def main (words : List String) : IO UInt32 :=
  match ReplicaQuorum.Command.ofWords words with
  | .error usage => ReplicaQuorum.complain usage
  | .ok command => ReplicaQuorum.runCommand command
