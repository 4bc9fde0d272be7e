import IssueMerge.Disk.Basic

/-!
A disk in memory: a table from places to files and directories. A place is the sequence of names that
leads there from the root, which is always a directory.
-/

namespace IssueMerge

/-- What stands at a place. -/
inductive Node where
  | file (content : Bytes)
  | directory
deriving DecidableEq

/-- A disk in memory and the working directory. -/
structure MemoryDisk where
  entries : List (List Text × Node) := []
  workingDirectory : List Text := []

namespace MemoryDisk

def node? (d : MemoryDisk) (place : List Text) : Option Node :=
  if place = [] then some .directory
  else (d.entries.find? (·.1 = place)).map (·.2)

def erase (d : MemoryDisk) (place : List Text) : MemoryDisk :=
  { d with entries := d.entries.filter (·.1 ≠ place) }

def put (d : MemoryDisk) (place : List Text) (node : Node) : MemoryDisk :=
  { d with entries := (place, node) :: (d.erase place).entries }

/-- The longest name of a file, in bytes. -/
def maxNameLength : Nat := 255

/-- The longest path, in bytes. -/
def maxPathLength : Nat := 4095

/-- The place that a name leads to from a directory. -/
def descend (d : MemoryDisk) (place : List Text) (part : Text) : Except Refusal (List Text) :=
  match d.node? place with
  | none => .error .noEntry
  | some (.file _) => .error .notDirectory
  | some .directory =>
    if part = Path.upName then .ok place.dropLast
    else if maxNameLength < (part.flatMap Utf8.unit).length then .error .nameTooLong
    else .ok (place ++ [part])

/-- The place that a path leads to, where nothing need stand. -/
def place (d : MemoryDisk) (p : Path) : Except FileError (List Text) :=
  if p.hasNull then .error .nullByte
  else if maxPathLength < (p.toText.flatMap Utf8.unit).length then
    .error (.os (.on .nameTooLong p))
  else
    ((p.fromRoot d.workingDirectory).foldlM d.descend []).mapError fun r => .os (.on r p)

def lookup (d : MemoryDisk) (p : Path) : Except FileError Node := do
  match d.node? (← d.place p) with
  | some node => .ok node
  | none => .error (.os (.on .noEntry p))

def kind? (d : MemoryDisk) (p : Path) : Except FileError (Option NodeKind) :=
  match d.lookup p with
  | .ok (.file _) => .ok (some .file)
  | .ok .directory => .ok (some .directory)
  | .error (.os (.on .noEntry _)) => .ok none
  | .error (.os (.on .notDirectory _)) => .ok none
  | .error e => .error e

def read (d : MemoryDisk) (p : Path) : Except FileError Bytes := do
  match ← d.lookup p with
  | .file content => .ok content
  | .directory => .error (.os (.on .isDirectory p))

/-- Puts a file at the end of a path, in a directory that is there. -/
def putFile (d : MemoryDisk) (p : Path) (content : Bytes) : Except FileError MemoryDisk := do
  let place ← d.place p
  match d.node? place with
  | some .directory => .error (.os (.on .isDirectory p))
  | _ => .ok (d.put place (.file content))

/-- Moves a file; directories are not moved. -/
def rename (d : MemoryDisk) (source target : Path) : Except FileError MemoryDisk :=
  let refused (r : Refusal) : FileError := .os (.between r source target)
  match d.place source, d.place target with
  | .ok s, .ok t =>
    if target.name = Path.upName ∨ target.parts = [] then .error (refused .busy)
    else
      match d.node? s, d.node? t with
      | none, _ => .error (refused .noEntry)
      | some .directory, _ => .error (refused .isDirectory)
      | some (.file _), some .directory => .error (refused .isDirectory)
      | some (.file content), _ => .ok ((d.erase s).put t (.file content))
  | .error .nullByte, _ => .error .nullByte
  | _, .error .nullByte => .error .nullByte
  | .error (.os (.on r _)), _ => .error (refused r)
  | _, .error (.os (.on r _)) => .error (refused r)
  | .error e, _ => .error e
  | _, .error e => .error e

def remove (d : MemoryDisk) (p : Path) : Except FileError MemoryDisk := do
  let place ← d.place p
  match d.node? place with
  | none => .error (.os (.on .noEntry p))
  | some .directory => .error (.os (.on .isDirectory p))
  | some (.file _) => .ok (d.erase place)

/-- Makes a change that may be refused; a refused one changes nothing. -/
def change (f : MemoryDisk → Except FileError MemoryDisk) :
    StateM MemoryDisk (Except FileError Unit) := fun d =>
  match f d with
  | .ok d' => (.ok (), d')
  | .error e => (.error e, d)

instance : Disk (StateM MemoryDisk) where
  workingDirectory := fun d => (d.workingDirectory, d)
  kind? p := fun d => (d.kind? p, d)
  read p := fun d => (d.read p, d)
  create p := change fun d => d.putFile p []
  fill p content := change fun d => d.putFile p content
  rename source target := change fun d => d.rename source target
  remove p := change fun d => d.remove p

end MemoryDisk

end IssueMerge
