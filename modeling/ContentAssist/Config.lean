import ContentAssist.LogFilter
import ContentAssist.Path
import ContentAssist.Yaml.Reading

/-! Defaults for the command line, read from a YAML file. -/
namespace ContentAssist

structure Config where
  logFilter : String := "warn"
  pretty : Bool := false
  schema : Option String := none
deriving DecidableEq, Repr

namespace Config

open Yaml (Node Reading Targets)

/-- Why a configuration cannot be used. -/
inductive Fault where
  | unreadable (path reason : String)
  | malformed
  | logFilter (filter : String) (fault : LogFilter.Fault)
  | schemaPath (path : String)
deriving DecidableEq, Repr

/-- What happened, followed by what caused it. -/
def Fault.messages : Fault → List String
  | .unreadable path reason => ["Failed to read config file " ++ path ++ ": " ++ reason, reason]
  | .malformed => ["Invalid config file: not a configuration"]
  | .logFilter filter fault => ["Invalid log filter '" ++ filter ++ "': " ++ fault.message]
  | .schemaPath path => ["Schema path " ++ path ++ " must end in .yaml, .yml or .json"]

def Fault.message (fault : Fault) : String :=
  fault.messages.headD ""

/-- Every entry may be left out, and there are no others. -/
def read (targets : Targets) (node : Node Nat) : Reading Config := do
  match ← Reading.entries targets true ["log_filter", "pretty", "schema"] node with
  | [logFilter, pretty, schema] =>
    let logFilter ← Reading.orElse "warn" (Reading.text targets) logFilter
    let pretty ← Reading.orElse false (Reading.bool targets) pretty
    let schema ← Reading.orElse none (Reading.option targets (Reading.text targets)) schema
    pure { logFilter, pretty, schema }
  | _ => failure

def parse (text : String) : Except Fault Config :=
  match (Yaml.Document.parse? text).bind fun document => document.read? (read document.targets) with
  | some config => .ok config
  | none => .error .malformed

/-- The configuration in a file, given what reading the file gave. -/
def ofFile (path : String) : Except String String → Except Fault Config
  | .ok text => parse text
  | .error reason => .error (.unreadable path reason)

/-- Extensions of files that may hold a schema. -/
def schemaExtensions : List String := ["yaml", "yml", "json"]

/-- Check the log filter and then the path of the schema. -/
def validate (config : Config) : Except Fault Unit := do
  match LogFilter.check config.logFilter with
  | .error fault => throw (.logFilter config.logFilter fault)
  | .ok () => pure ()
  match config.schema with
  | some path =>
    if (Path.extension? path).any schemaExtensions.contains then pure () else throw (.schemaPath path)
  | none => pure ()

end Config

end ContentAssist
