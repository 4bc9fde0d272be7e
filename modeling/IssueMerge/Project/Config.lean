import IssueMerge.Disk.Basic
import IssueMerge.Yaml.Value

/-!
The settings of a project, from the file `config.yaml` in its directory. A file that is not there
leaves all settings as they are by default. What the text of the file holds is left to a reader.
-/

namespace IssueMerge

/-- The settings of a project. -/
structure Config where
  /-- The stem of fresh ids; without one it is taken from the ids in use. -/
  stem : Option Text := none
  /-- The name of the file of issues in the directory of the project. -/
  storeName : Text := "issues.jsonl"
deriving DecidableEq

/-- Why the settings cannot be read. -/
inductive ConfigError where
  | unreadable (file : Path) (reason : Text)
  | notMapping (file : Path)
  | notText (setting : Text) (file : Path)
  | notBareName (file : Path) (name : Text)
  /-- The system refuses to say whether there is a file. -/
  | os (e : OsError)
deriving DecidableEq

namespace Config

def fileName : Text := "config.yaml"
def stemSetting : Text := "issue-prefix"
def storeSetting : Text := "jsonl-file"

end Config

def ConfigError.message : ConfigError → Text
  | .unreadable file reason => "Invalid YAML in " ++ file.toText ++ ": " ++ reason
  | .notMapping file => "Invalid " ++ file.toText ++ ": expected a mapping at top level"
  | .notText setting file =>
    "Invalid " ++ setting ++ " in " ++ file.toText ++ ": expected a non-empty string"
  | .notBareName file name =>
    "Invalid " ++ Config.storeSetting ++ " in " ++ file.toText
      ++ ": expected a bare file name, got " ++ name.quoted
  | .os e => e.message

namespace Config

/-- A setting that is a text, without the blanks around it. It may be absent or null. -/
def readText (file : Path) (setting : Text) (pairs : List (Yaml.Value × Yaml.Value)) :
    Except ConfigError (Option Text) :=
  match Yaml.Value.field? setting pairs with
  | none => .ok none
  | some (.scalar .null) => .ok none
  | some (.scalar (.text t)) =>
    if t.trim = [] then .error (.notText setting file) else .ok (some t.trim)
  | some _ => .error (.notText setting file)

/-- Is the text the name of a file, and not a path to it? -/
def isBareName (name : Text) : Bool :=
  (Path.ofText name).name = name

def ofPairs (file : Path) (pairs : List (Yaml.Value × Yaml.Value)) : Except ConfigError Config := do
  let storeName := (← readText file storeSetting pairs).getD ({} : Config).storeName
  if isBareName storeName then
    let stem ← readText file stemSetting pairs
    .ok { stem, storeName }
  else
    .error (.notBareName file storeName)

/-- The settings in the value of a file. A void value leaves all of them as they are. -/
def ofValue (file : Path) (v : Yaml.Value) : Except ConfigError Config :=
  if v.isVoid then .ok {}
  else
    match v with
    | .mapping pairs => ofPairs file pairs
    | _ => .error (.notMapping file)

/-- Every way to end a line becomes a line feed. -/
def unifyBreaks : Text → Text
  | [] => []
  | [c] => if c = .carriageReturn then [.lineFeed] else [c]
  | c :: d :: t =>
    if c = .carriageReturn then
      if d = .lineFeed then unifyBreaks (d :: t) else .lineFeed :: unifyBreaks (d :: t)
    else
      c :: unifyBreaks (d :: t)

def ofBytes (reader : Yaml.Reader) (file : Path) (content : Bytes) : Except ConfigError Config :=
  match Utf8.decode content with
  | .error e => .error (.unreadable file e.message)
  | .ok t =>
    match reader (unifyBreaks t) with
    | .error reason => .error (.unreadable file reason)
    | .ok v => ofValue file v

variable {m : Type → Type} [Monad m] [Disk m]

def load (reader : Yaml.Reader) (directory : Path) : ExceptT ConfigError m Config := do
  let file := directory.child fileName
  match ← Disk.outcome (Disk.present file) with
  | .error e => throw (.os e)
  | .ok false => pure {}
  | .ok true =>
    match ← ExceptT.lift (Disk.read file) with
    | .error e => throw (.unreadable file e.message)
    | .ok content => ExceptT.mk (pure (ofBytes reader file content))

end Config

end IssueMerge
