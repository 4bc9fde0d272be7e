import IssueMerge.Project.Config

/-!
Finding a project and its file of issues. The project of a place is in the nearest directory `.beads`
at or above it.
-/

namespace IssueMerge

/-- Why the file of issues cannot be found. -/
inductive LocateError where
  | noProject (start : Path)
  | config (e : ConfigError)
  | os (e : OsError)
  | nullByte
deriving DecidableEq

namespace Project

def directoryName : Text := ".beads"

/-- The name of the file of issues in projects of old. -/
def legacyStoreName : Text := "beads.jsonl"

end Project

def LocateError.message : LocateError → Text
  | .noProject start =>
    "Unable to locate a " ++ Project.directoryName ++ " directory from " ++ start.toText
  | .config e => e.message
  | .os e => e.message
  | .nullByte => FileError.message .nullByte

namespace Project

variable {m : Type → Type} [Monad m] [Disk m]

/-- The first of some paths at which there is a directory. -/
def firstDirectory? : List Path → ExceptT OsError m (Option Path)
  | [] => pure none
  | p :: rest => do
    if ← Disk.isDirectory p then
      pure (some p)
    else
      firstDirectory? rest

def find (start : Path) : ExceptT LocateError m Path := do
  if start.hasNull then
    throw .nullByte
  let current := start.resolve (← ExceptT.lift Disk.workingDirectory)
  match ← Disk.outcome (firstDirectory? (current.selfAndParents.map (·.child directoryName))) with
  | .error e => throw (.os e)
  | .ok (some directory) => pure directory
  | .ok none => throw (.noProject current)

/-- The file of issues of a project: the one of the settings, unless only the one of old is there. -/
def storePath (directory : Path) (config : Config) : ExceptT OsError m Path := do
  let configured := directory.child config.storeName
  let legacy := directory.child legacyStoreName
  if ← Disk.present configured then
    pure configured
  else if ← Disk.present legacy then
    pure legacy
  else
    pure configured

def loadConfig (reader : Yaml.Reader) (directory : Path) : ExceptT LocateError m Config := do
  match ← Disk.outcome (Config.load reader directory) with
  | .ok config => pure config
  | .error e => throw (.config e)

/-- The file of issues to work on, and the settings. A file that is given need not be in a project;
if it is, the settings are those of its project. -/
def locate (reader : Yaml.Reader) (file : Option Path) :
    ExceptT LocateError m (Path × Config) := do
  match file with
  | some file =>
    match ← Disk.outcome (find file.parent) with
    | .error (.noProject _) => pure (file, {})
    | .error e => throw e
    | .ok directory => pure (file, ← loadConfig reader directory)
  | none =>
    let directory ← find {}
    let config ← loadConfig reader directory
    match ← Disk.outcome (storePath directory config) with
    | .error e => throw (.os e)
    | .ok path => pure (path, config)

end Project

end IssueMerge
