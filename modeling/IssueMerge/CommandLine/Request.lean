import IssueMerge.Text.CodePoint

/-!
What is asked for on the command line. There is one command, `resolve-conflicts`. A long option takes
its value from the next argument or after `=`, the short one from the next argument or from its own;
after `--` nothing is an option.
-/

namespace IssueMerge

/-- The options of `resolve-conflicts`. -/
structure ResolveOptions where
  auto : Bool := false
  dryRun : Bool := false
  json : Bool := false
  file : Option Text := none
  stem : Option Text := none
deriving DecidableEq

/-- Why a command line is not understood. -/
inductive UsageError where
  | noCommand
  | unknownCommand (name : Text)
  | unknownOption (name : Text)
  | missingValue (name : Text)
  | needlessValue (name : Text)
  | extraArgument (argument : Text)
deriving DecidableEq

/-- What is asked for on the command line. -/
inductive Request where
  | misuse (e : UsageError)
  | help
  | resolve (options : ResolveOptions)
deriving DecidableEq

def UsageError.message : UsageError → Text
  | .noCommand => "Missing command."
  | .unknownCommand name => "No such command: " ++ name
  | .unknownOption name => "No such option: " ++ name
  | .missingValue name => "Option requires an argument: " ++ name
  | .needlessValue name => "Option does not take a value: " ++ name
  | .extraArgument argument => "Unexpected extra argument: " ++ argument

/-- An option without a value. -/
inductive Flag where
  | auto
  | dryRun
  | json
  | help
deriving DecidableEq

/-- An option with a value. -/
inductive Setting where
  | file
  | stem
deriving DecidableEq

/-- An argument by itself. -/
inductive Argument where
  | plain
  /-- Two hyphens and nothing else. -/
  | endOfOptions
  | flag (flag : Flag)
  /-- The value may be in the next argument. -/
  | setting (setting : Setting) (value : Option Text)
deriving DecidableEq

namespace Argument

def hyphen : CodePoint := CodePoint.ofChar '-'

def flagNames : List (Text × Flag) :=
  [("--auto", .auto), ("--dry-run", .dryRun), ("--json", .json), ("--help", .help)]

def settingNames : List (Text × Setting) :=
  [("--file", .file), ("--prefix", .stem)]

/-- A long option with the value that is written after its `=`. -/
def ofLong (name : Text) (value : Option Text) : Except UsageError Argument :=
  match flagNames.lookup name, settingNames.lookup name, value with
  | some f, _, none => .ok (.flag f)
  | some _, _, some _ => .error (.needlessValue name)
  | none, some s, value => .ok (.setting s value)
  | none, none, _ => .error (.unknownOption name)

/-- A short option, with its value if anything follows its letter. -/
def ofShort (letter : CodePoint) (rest : Text) : Except UsageError Argument :=
  if letter = CodePoint.ofChar 'f' then
    .ok (.setting .file (if rest = [] then none else some rest))
  else
    .error (.unknownOption [hyphen, letter])

def isOption : Text → Bool
  | a :: _ :: _ => a = hyphen
  | _ => false

/-- The value after the first `=` of an argument, if there is one. -/
def valueOf? (t : Text) : Option Text :=
  match t.dropWhile (· ≠ CodePoint.ofChar '=') with
  | [] => none
  | _ :: value => some value

def ofText (t : Text) : Except UsageError Argument :=
  match t with
  | a :: b :: rest =>
    if a ≠ hyphen then .ok .plain
    else if b ≠ hyphen then ofShort b rest
    else if rest = [] then .ok .endOfOptions
    else ofLong (t.takeWhile (· ≠ CodePoint.ofChar '=')) (valueOf? t)
  | _ => .ok .plain

end Argument

/-- What was read from the arguments of `resolve-conflicts`. -/
structure ResolveArguments where
  options : ResolveOptions := {}
  help : Bool := false
  extra : List Text := []

namespace ResolveArguments

def raise (a : ResolveArguments) : Flag → ResolveArguments
  | .auto => { a with options.auto := true }
  | .dryRun => { a with options.dryRun := true }
  | .json => { a with options.json := true }
  | .help => { a with help := true }

def set (a : ResolveArguments) (value : Text) : Setting → ResolveArguments
  | .file => { a with options.file := some value }
  | .stem => { a with options.stem := some value }

/-- Reads arguments; of an option that is given more than once, the last one counts. -/
def read (a : ResolveArguments) : List Text → Except UsageError ResolveArguments
  | [] => .ok a
  | t :: rest =>
    match Argument.ofText t, rest with
    | .error e, _ => .error e
    | .ok .plain, rest => read { a with extra := a.extra ++ [t] } rest
    | .ok .endOfOptions, rest => .ok { a with extra := a.extra ++ rest }
    | .ok (.flag f), rest => read (a.raise f) rest
    | .ok (.setting s (some value)), rest => read (a.set value s) rest
    | .ok (.setting s none), value :: rest => read (a.set value s) rest
    | .ok (.setting _ none), [] => .error (.missingValue t)

/-- What is asked for. Help is given in place of anything else that is well formed. -/
def toRequest (a : ResolveArguments) : Request :=
  if a.help then .help
  else
    match a.extra with
    | [] => .resolve a.options
    | argument :: _ => .misuse (.extraArgument argument)

end ResolveArguments

namespace Request

def commandName : Text := "resolve-conflicts"

/-- Reads what stands in front of the command: whether help is asked for, and the arguments from the
command on. -/
def readOptions (help : Bool) : List Text → Except UsageError (Bool × List Text)
  | [] => .ok (help, [])
  | t :: rest =>
    match Argument.ofText t with
    | .ok .plain => .ok (help, t :: rest)
    | .ok .endOfOptions => .ok (help, rest)
    | .ok (.flag .help) => readOptions true rest
    | .ok (.flag _) => .error (.unknownOption t)
    | .ok (.setting _ _) => .error (.unknownOption t)
    | .error e => .error e

/-- What is asked for by a command and its arguments. A command that is written like an option is
none, but help that is asked for from there on is given. -/
def ofCommand : List Text → Request
  | [] => .misuse .noCommand
  | name :: rest =>
    if name = commandName then
      match ResolveArguments.read {} rest with
      | .ok a => a.toRequest
      | .error e => .misuse e
    else if Argument.isOption name ∧ (readOptions false (name :: rest)).toOption.any (·.1) then
      .help
    else
      .misuse (.unknownCommand name)

def ofArguments (arguments : List Text) : Request :=
  match readOptions false arguments with
  | .error e => .misuse e
  | .ok (true, _) => .help
  | .ok (false, rest) => ofCommand rest

end Request

end IssueMerge
