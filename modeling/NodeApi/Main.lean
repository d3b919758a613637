import NodeApi.CommandLine.Run

/-!
# The program

The command line on top of the file system.
-/

namespace NodeApi

/-- Files are read and created in the file system. -/
def fileHost : CommandLine.Host IO where
  read path := do
    try
      return String.fromUTF8? (← IO.FS.readBinFile path)
    catch _ =>
      return none
  create path text := do
    try
      IO.FS.writeFile path text
      return true
    catch _ =>
      return false
  write := IO.print

end NodeApi

/-- Describes the interface of a node. -/
def main (arguments : List String) : IO UInt32 := do
  let outcome ← NodeApi.CommandLine.run NodeApi.fileHost arguments
  match outcome.errorLine?, outcome with
  | some line, _ => IO.eprintln line
  | none, .misused misuse => IO.eprintln misuse.message
  | none, _ => pure ()
  return outcome.exitCode
