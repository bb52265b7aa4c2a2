import ContentAssist.CommandLine
import ContentAssist.Completion.Resolve
import ContentAssist.Config
import ContentAssist.Schema.File
import ContentAssist.Schema.Validation
import ContentAssist.Snapshot

/-! What the program does with its arguments and files. It is given a way to read files, and gives back what it
prints and its exit code. -/
namespace ContentAssist

namespace Snapshot

/-- Why a snapshot cannot be had. -/
inductive FileFault where
  | unreadable (path reason : String)
  | malformed
deriving DecidableEq, Repr

/-- What happened, followed by what caused it. -/
def FileFault.messages : FileFault → List String
  | .unreadable path reason => ["Failed to read snapshot " ++ path ++ ": " ++ reason, reason]
  | .malformed => ["Invalid snapshot: not a snapshot"]

def FileFault.message (fault : FileFault) : String :=
  fault.messages.headD ""

/-- The snapshot in a file, given what reading the file gave. -/
def ofFile (path : String) : Except String String → Except FileFault Snapshot
  | .error reason => .error (.unreadable path reason)
  | .ok text => match parse? text with
    | some snapshot => .ok snapshot
    | none => .error .malformed

end Snapshot

/-- What the program leaves behind. -/
structure Outcome where
  exitCode : Nat
  output : String := ""
  /-- What went wrong -/
  error : Option String := none
deriving DecidableEq, Repr

namespace Program

def version : String := "xml-assist 0.1.0\n"

def usage : String :=
  "Usage: xml-assist [--config FILE] [--pretty] context --input FILE --offset NUMBER
       xml-assist [--config FILE] [--pretty] validate --input FILE [--schema FILE]
"

/-- A failure is what happened and what caused it, from the outside in. -/
abbrev Failure := List String

def Failure.outcome (failure : Failure) : Outcome :=
  { exitCode := 1, error := some (": ".intercalate failure) }

variable {m : Type → Type} [Monad m]

/-- The configuration in the file, or the default without one. It has to be valid. -/
def loadConfig (readFile : String → m (Except String String)) :
    Option String → ExceptT Failure m Config
  | none => check {}
  | some path => do
    match Config.ofFile path (← readFile path) with
    | .ok config => check config
    | .error fault => throw (("Failed to load config " ++ path) :: fault.messages)
where
  check (config : Config) : ExceptT Failure m Config :=
    match config.validate with
    | .ok () => pure config
    | .error fault => throw fault.messages

def loadSchema (readFile : String → m (Except String String)) (path : String) :
    ExceptT Failure m Schema.Element := do
  match Schema.Element.ofFile path (← readFile path) with
  | .ok schema => pure schema
  | .error fault => throw (("Failed to load schema " ++ path) :: fault.messages)

def loadSnapshot (readFile : String → m (Except String String)) (path : String) :
    ExceptT Failure m Snapshot := do
  match Snapshot.ofFile path (← readFile path) with
  | .ok snapshot => pure snapshot
  | .error fault => throw fault.messages

/-- A value on lines of its own. -/
def print (pretty : Bool) (value : Json) : String :=
  (if pretty then value.pretty else value.compact) ++ "\n"

def noSchema : String :=
  "No schema given; pass --schema or set `schema` in the config file"

/-- Carry out a command. Issues in a document are not a failure, but show in the exit code. -/
def perform (readFile : String → m (Except String String)) (invocation : Invocation) :
    ExceptT Failure m Outcome := do
  let config ← loadConfig readFile invocation.config
  let pretty := invocation.pretty || config.pretty
  match invocation.command with
  | .context input offset =>
    let snapshot ← loadSnapshot readFile input
    pure { exitCode := 0, output := print pretty (snapshot.completionReport offset) }
  | .validate input schema =>
    match schema <|> config.schema with
    | none => throw [noSchema]
    | some path =>
      let schema ← loadSchema readFile path
      let snapshot ← loadSnapshot readFile input
      let report := schema.report snapshot.document
      pure
        { exitCode := if report.hasErrors then 1 else 0
          output := print pretty report.json }

/-- Run the program. -/
def run (readFile : String → m (Except String String)) (environment : Option String)
    (arguments : List String) : m Outcome := do
  match Request.ofArguments environment arguments with
  | .misuse => pure { exitCode := 2, error := some usage }
  | .version => pure { exitCode := 0, output := version }
  | .help => pure { exitCode := 0, output := usage }
  | .run invocation =>
    match ← (perform readFile invocation).run with
    | .ok outcome => pure outcome
    | .error failure => pure (Failure.outcome failure)

end Program

end ContentAssist
