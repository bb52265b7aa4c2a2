/-! The arguments of the command line. -/
namespace ContentAssist

/-- What is to be done. -/
inductive Command where
  /-- Print what can be completed at an offset of a snapshot -/
  | context (input : String) (offset : Nat)
  /-- Print how a snapshot departs from a schema -/
  | validate (input : String) (schema : Option String)
deriving DecidableEq, Repr

structure Invocation where
  command : Command
  config : Option String
  pretty : Bool
deriving DecidableEq, Repr

/-- What the arguments ask for. -/
inductive Request where
  | run (invocation : Invocation)
  | version
  | help
  | misuse
deriving DecidableEq, Repr

namespace CommandLine

/-- Where an argument stands: before the name of a command, or behind it. -/
inductive Level where
  | top
  | context
  | validate
deriving DecidableEq, Repr

/-- Options that take a value. -/
inductive Setting where
  | config
  | input
  | offset
  | schema
deriving DecidableEq, Repr

def Setting.all : List Setting := [.config, .input, .offset, .schema]

def Setting.letter : Setting → Char
  | .config => 'c'
  | .input => 'i'
  | .offset => 'o'
  | .schema => 's'

def Setting.name : Setting → String
  | .config => "config"
  | .input => "input"
  | .offset => "offset"
  | .schema => "schema"

/-- Where a setting may be given. -/
def Setting.allowed : Setting → Level → Bool
  | .config, _ => true
  | .input, level => level ≠ .top
  | .offset, level => level = .context
  | .schema, level => level = .validate

/-- What was given at one level. -/
structure Given where
  config : Option String := none
  pretty : Bool := false
  input : Option String := none
  offset : Option Nat := none
  schema : Option String := none
deriving DecidableEq, Repr

/-- A count of 64 bits, perhaps with a plus sign. -/
def count? (text : String) : Option Nat :=
  let digits := match text.toList with
    | '+' :: rest => rest
    | digits => digits
  if digits.isEmpty || !digits.all Char.isDigit then none
  else
    let value := digits.foldl (fun value c => value * 10 + (c.toNat - '0'.toNat)) 0
    if value < UInt64.size then some value else none

/-- A path, which is not empty. -/
def path? (text : String) : Option String :=
  if text.isEmpty then none else some text

/-- Give a setting its value. It may be given once only. -/
def Given.set? (given : Given) (setting : Setting) (value : String) : Option Given :=
  match setting with
  | .config => if given.config.isSome then none else (path? value).map fun path => { given with config := some path }
  | .input => if given.input.isSome then none else (path? value).map fun path => { given with input := some path }
  | .offset => if given.offset.isSome then none else (count? value).map fun count => { given with offset := some count }
  | .schema => if given.schema.isSome then none else (path? value).map fun path => { given with schema := some path }

/-- What a single argument is, where no value is awaited. -/
inductive Argument where
  | command (level : Level)
  /-- Ask for help on what the next argument names -/
  | helpCommand
  | help
  | version
  | pretty
  /-- A setting whose value is the next argument -/
  | awaits (setting : Setting)
  | valued (setting : Setting) (value : String)
  /-- The mark behind which no options come -/
  | noMoreOptions
  | unknown
deriving DecidableEq, Repr

/-- A long option, from behind its two hyphens on. -/
def Argument.ofLong (level : Level) (text : List Char) : Argument :=
  let name := String.ofList (text.takeWhile (· ≠ '='))
  let value := match text.dropWhile (· ≠ '=') with
    | _ :: value => some (String.ofList value)
    | [] => none
  match Setting.all.find? fun setting => setting.name = name && setting.allowed level, value with
  | some setting, some value => .valued setting value
  | some setting, none => .awaits setting
  | none, some _ => .unknown
  | none, none =>
    if name = "pretty" then .pretty
    else if name = "help" then .help
    else if name = "version" && level = .top then .version
    else .unknown

/-- A short option, given its letter and what is glued to it. An equals sign before a value does not
count. -/
def Argument.ofShort (level : Level) (letter : Char) (glued : List Char) : Argument :=
  match Setting.all.find? fun setting => setting.letter = letter && setting.allowed level with
  | some setting =>
    match glued with
    | [] => .awaits setting
    | '=' :: value => .valued setting (String.ofList value)
    | value => .valued setting (String.ofList value)
  | none =>
    if letter = 'h' then .help
    else if letter = 'V' && level = .top then .version
    else .unknown

def Argument.ofText (level : Level) (text : String) : Argument :=
  match text.toList with
  | ['-', '-'] => .noMoreOptions
  | '-' :: '-' :: rest => .ofLong level rest
  | '-' :: letter :: glued => .ofShort level letter glued
  | _ =>
    match level, text with
    | .top, "context" => .command .context
    | .top, "validate" => .command .validate
    | .top, "help" => .helpCommand
    | _, _ => .unknown

/-- Whether the text can be the value of a setting that stands before it. -/
def isValue (text : String) : Bool :=
  match text.toList with
  | '-' :: _ :: _ => false
  | _ => true

/-- The request that the settings amount to. The environment may name a configuration file too, which the
arguments override; behind the command they also override those before it. An empty name in the environment is
refused where it is looked at. -/
def request (environment : Option String) (top given : Given) (level : Level) : Request :=
  if environment = some "" && (top.config.isNone || given.config.isNone) then .misuse
  else
    let config := given.config <|> top.config <|> environment
    let pretty := top.pretty || given.pretty
    match level, given.input, given.offset with
    | .context, some input, some offset => .run ⟨.context input offset, config, pretty⟩
    | .validate, some input, _ => .run ⟨.validate input given.schema, config, pretty⟩
    | _, _, _ => .misuse

/-- Help is given on the whole or on a single command. -/
def helpOn : List String → Request
  | [] | ["context"] | ["validate"] | ["help"] => .help
  | _ => .misuse

/-- Read the arguments in order. The first that asks for help or for the version, or that makes no sense,
settles the request. -/
def parse (environment : Option String) (top : Given) :
    Level → Given → Option Setting → List String → Request
  | level, given, none, [] => request environment top given level
  | _, _, some _, [] => .misuse
  | level, given, some setting, value :: rest =>
    if isValue value then
      match given.set? setting value with
      | some given => parse environment top level given none rest
      | none => .misuse
    else .misuse
  | level, given, none, argument :: rest =>
    match Argument.ofText level argument with
    | .command next => parse environment given next {} none rest
    | .helpCommand => helpOn rest
    | .help => .help
    | .version => .version
    | .pretty =>
      if given.pretty then .misuse
      else parse environment top level { given with pretty := true } none rest
    | .awaits setting => parse environment top level given (some setting) rest
    | .valued setting value =>
      match given.set? setting value with
      | some given => parse environment top level given none rest
      | none => .misuse
    | .noMoreOptions => if rest.isEmpty then request environment top given level else .misuse
    | .unknown => .misuse

end CommandLine

/-- What the arguments ask for, given the configuration file that the environment names. -/
def Request.ofArguments (environment : Option String) (arguments : List String) : Request :=
  CommandLine.parse environment {} .top {} none arguments

end ContentAssist
