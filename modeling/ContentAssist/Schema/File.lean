import ContentAssist.Path
import ContentAssist.Schema.Json
import ContentAssist.Schema.Yaml

/-! Schemas in files. The extension of the file tells the format. -/
namespace ContentAssist.Schema

/-- Why a schema cannot be had. -/
inductive FileFault where
  | unreadable (path reason : String)
  | unsupported (path : String)
  | malformedYaml
  | malformedJson
deriving DecidableEq, Repr

/-- What happened, followed by what caused it. -/
def FileFault.messages : FileFault → List String
  | .unreadable path reason => ["Failed to read schema file " ++ path ++ ": " ++ reason, reason]
  | .unsupported path => ["Unsupported schema format: " ++ path ++ " (expected .yaml, .yml or .json)"]
  | .malformedYaml => ["Invalid YAML schema: not a schema"]
  | .malformedJson => ["Invalid JSON schema: not a schema"]

def FileFault.message (fault : FileFault) : String :=
  fault.messages.headD ""

namespace Element

variable {P : Type} [PatternReader P]

def ofYaml (text : String) : Except FileFault (Element P) :=
  match parseYaml? text with
  | some schema => .ok schema
  | none => .error .malformedYaml

def ofJson (text : String) : Except FileFault (Element P) :=
  match parseJson? text with
  | some schema => .ok schema
  | none => .error .malformedJson

/-- The schema in a file, given what reading the file gave. A file that cannot be read counts before an
extension that is unknown. -/
def ofFile (path : String) : Except String String → Except FileFault (Element P)
  | .error reason => .error (.unreadable path reason)
  | .ok text => match Path.extension? path with
    | some "yaml" | some "yml" => ofYaml text
    | some "json" => ofJson text
    | _ => .error (.unsupported path)

end Element

end ContentAssist.Schema
