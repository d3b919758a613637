import NodeApi.CommandLine.Options
import NodeApi.Document.Basic
import NodeApi.Metadata.Basic
import NodeApi.Rpc.Basic

/-!
# Running the program

The program reads its two inputs, describes them, and writes the document.  It sees the world
through a host that reads and creates files, so that what it does is a function of its host.

Main results:

- Theorem `run_of_misuse`: a misuse is found out before anything is read.
-/

namespace NodeApi
namespace CommandLine

/-- What the program needs of the world. -/
structure Host (m : Type → Type) where
  /-- The content of a file, if it can be read and is text. -/
  read : String → m (Option String)
  /-- Gives a file a new content, unless the file cannot be created. -/
  create : String → String → m Bool
  /-- Writes to the standard output. -/
  write : String → m Unit

/-- Why the program cannot do what it is asked for. -/
inductive Failure where
  | unreadable (path : String)
  | malformed (path : String) (cause : Json.Error)
  | notCreated (path : String)
  | document (cause : DocumentError)
deriving DecidableEq

/-- The wording of a failure. -/
def Failure.message : Failure → String
  | unreadable path => "Failed to read " ++ path
  | malformed path _ => "Failed to parse " ++ path
  | notCreated path => "Failed to create " ++ path
  | document cause => cause.message

/-- How a run of the program ends. -/
inductive Outcome where
  | done
  | failed (failure : Failure)
  | misused (misuse : Misuse)
deriving DecidableEq

/-- The exit code of the program. -/
def Outcome.exitCode : Outcome → UInt32
  | done => 0
  | failed _ => 1
  | misused _ => 2

/-- The line that tells of a failure. -/
def Outcome.errorLine? : Outcome → Option String
  | failed failure => some ("Error: " ++ failure.message)
  | _ => none

section

variable {m : Type → Type} [Monad m]

/-- Decodes a file, if one is named. -/
def load {α : Type} (host : Host m) (decoder : Json.Decoder α) (absent : α) :
    Option String → m (Except Failure α)
  | none => return .ok absent
  | some path => do
    match ← host.read path with
    | none => return .error (.unreadable path)
    | some text => return (decoder.ofText text).mapError (.malformed path)

/-- Writes a text, to a file if one is named. -/
def store (host : Host m) (text : String) : Option String → m Outcome
  | none => do
    host.write text
    return .done
  | some path => do
    if ← host.create path text then return .done else return .failed (.notCreated path)

/-- Does what is asked for. -/
def Options.run (o : Options) (host : Host m) : m Outcome := do
  match ← load host Rpc.Definitions.decoder .empty o.rpcDefinitions with
  | .error failure => return .failed failure
  | .ok definitions =>
    match ← load host Metadata.decoder .empty o.metadata with
    | .error failure => return .failed failure
    | .ok metadata =>
      let (document, _) := Document.generate definitions metadata.pallets metadata.lookup
      match document.toText (if o.compact then .compact else .pretty) with
      | .error cause => return .failed (.document cause)
      | .ok text => store host (text ++ "\n") o.output

/-- Runs the program with the given arguments. -/
def run (host : Host m) (arguments : List String) : m Outcome :=
  match parse arguments with
  | .error misuse => return .misused misuse
  | .ok options => options.run host

/-- A misuse is found out before anything is read. -/
theorem run_of_misuse (host : Host m) {arguments : List String} {misuse : Misuse}
    (h : parse arguments = .error misuse) : run host arguments = pure (.misused misuse) := by
  simp [run, h]

end

end CommandLine
end NodeApi
