import ContentAssist.Unicode.Alphabetic
import ContentAssist.Unicode.Numeric
import ContentAssist.Unicode.WhiteSpace

/-! Filters for log messages, as in `info,parser=debug`: directives with commas between them. A directive is a
level, or a target with an optional span in brackets and an optional level. Filters are only checked here. -/
namespace ContentAssist.LogFilter

open Unicode

/-- Why a filter is refused. -/
inductive Fault where
  | directive
  | level
deriving DecidableEq, Repr

def Fault.message : Fault → String
  | .directive => "invalid filter directive"
  | .level =>
    "error parsing level filter: expected one of \"off\", \"error\", \"warn\", \"info\", \"debug\", \"trace\", "
      ++ "or a number 0-5"

/-- A number from 0 to 5, perhaps with a plus sign and with zeros before it. -/
def isLevelNumber (level : List Char) : Bool :=
  let digits := match level with
    | '+' :: rest => rest
    | digits => digits
  !digits.isEmpty && digits.all Char.isDigit
    && digits.foldl (fun value c => value * 10 + (c.toNat - '0'.toNat)) 0 ≤ 5

/-- A level may be left out behind its sign. -/
def checkLevel (level : List Char) : Except Fault Unit :=
  let names := ["", "off", "error", "warn", "info", "debug", "trace"]
  if isLevelNumber level || names.contains (String.ofList (level.map Char.toLower)) then .ok ()
  else .error .level

/-- What follows a span. -/
def checkAfterSpan : List Char → Except Fault Unit
  | [] => .ok ()
  | '=' :: level => checkLevel level
  | _ => .error .directive

/-- What follows the fields of a span. -/
def checkAfterFields : List Char → Except Fault Unit
  | ']' :: rest => checkAfterSpan rest
  | _ => .error .directive

/-- The fields of a span, which are not empty. -/
def checkFields (started : Bool) : List Char → Except Fault Unit
  | [] => .error .directive
  | '}' :: rest => if started then checkAfterFields rest else .error .directive
  | _ :: rest => checkFields true rest

def checkSpan : List Char → Except Fault Unit
  | [] => .error .directive
  | ']' :: rest => checkAfterSpan rest
  | '{' :: rest => checkFields false rest
  | _ :: rest => checkSpan rest

def checkTarget : List Char → Except Fault Unit
  | [] => .ok ()
  | '=' :: level => checkLevel level
  | '[' :: rest => checkSpan rest
  | _ :: rest => checkTarget rest

/-- Characters with which a target starts. -/
def startsTarget (c : Char) : Bool :=
  c = '-' || c = ':' || c = '_' || isAlphabetic c || isNumeric c

def trim (text : List Char) : List Char :=
  ((text.dropWhile isWhiteSpace).reverse.dropWhile isWhiteSpace).reverse

def checkDirective (text : String) : Except Fault Unit :=
  match trim text.toList with
  | [] => .error .directive
  | '[' :: rest => checkSpan rest
  | c :: rest => if startsTarget c then checkTarget rest else .error .directive

/-- Check a filter. The first directive that is refused counts; empty ones are passed over. -/
def check (filter : String) : Except Fault Unit :=
  ((filter.splitOn ",").filter (· ≠ "")).forM checkDirective

end ContentAssist.LogFilter
