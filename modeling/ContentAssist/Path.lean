/-! Names of files. -/
namespace ContentAssist.Path

/-- The last name in a path. Slashes and dots behind it do not count; a path that goes up at its end has
none. -/
def fileName? (path : String) : Option String :=
  let names := (path.splitOn "/").filter fun name => name ≠ "" && name ≠ "."
  names.getLast?.filter (· ≠ "..")

/-- What stands behind the last point of the file's name. A point at its start does not count. -/
def extension? (path : String) : Option String := do
  let name ← fileName? path
  let reversed := name.toList.reverse
  let after := reversed.takeWhile (· ≠ '.')
  match reversed.drop after.length with
  | [] => none
  | [_] => none
  | _ => some (String.ofList after.reverse)

end ContentAssist.Path
