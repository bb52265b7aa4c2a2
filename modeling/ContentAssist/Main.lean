import ContentAssist.Program

/-! The program itself: arguments, files and output. -/
namespace ContentAssist.Main

/-- What kept a file from being read, in the words of the system. -/
def reason : IO.Error → String
  | .noFileOrDirectory _ code _ => "No such file or directory (os error " ++ toString code ++ ")"
  | .permissionDenied _ code _ => "Permission denied (os error " ++ toString code ++ ")"
  | .inappropriateType _ code _ =>
    (if code = 21 then "Is a directory" else "Not a directory") ++ " (os error " ++ toString code ++ ")"
  | failure => toString failure

/-- Read a file of text. -/
def readFile (path : String) : IO (Except String String) := do
  try
    match String.fromUTF8? (← IO.FS.readBinFile path) with
    | some text => return .ok text
    | none => return .error "stream did not contain valid UTF-8"
  catch failure => return .error (reason failure)

end ContentAssist.Main

/-- The environment may name a configuration file. -/
def main (arguments : List String) : IO UInt32 := do
  let environment ← IO.getEnv "XML_ASSIST_CONFIG"
  let outcome ← ContentAssist.Program.run ContentAssist.Main.readFile environment arguments
  IO.print outcome.output
  if let some text := outcome.error then
    IO.eprintln (if outcome.exitCode = 1 then "error: " ++ text else text)
  return outcome.exitCode.toUInt32
