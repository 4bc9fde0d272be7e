import IssueMerge.Disk.Basic
import IssueMerge.Text.Lines

/-!
The file that holds the issues. It is read as lines, so that what is no record is kept, and written
by one of two ways: in place, or to a file beside it that then takes its place.
-/

namespace IssueMerge

/-- Why a text was not written. -/
inductive WriteError where
  | os (e : OsError)
  | nullByte
  | unencodable (e : Utf8.Unencodable)
deriving DecidableEq

/-- Why the file of issues was not read or written. -/
inductive StoreError where
  | unreadable (path : Path) (e : OsError)
  | undecodable (path : Path) (e : Utf8.Undecodable)
  | unwritable (path : Path) (e : OsError)
  | nullByte
  | unencodable (e : Utf8.Unencodable)
deriving DecidableEq

def FileError.toWriteError : FileError → WriteError
  | .os e => .os e
  | .nullByte => .nullByte

def WriteError.message : WriteError → Text
  | .os e => e.message
  | .nullByte => FileError.message .nullByte
  | .unencodable e => e.message

def StoreError.message : StoreError → Text
  | .unreadable path e => "Failed to read " ++ path.toText ++ ": " ++ e.message
  | .undecodable path e => "Failed to read " ++ path.toText ++ ": " ++ e.message
  | .unwritable path e => "Failed to write " ++ path.toText ++ ": " ++ e.message
  | .nullByte => FileError.message .nullByte
  | .unencodable e => e.message

/-- A way to write a text to a file. -/
abbrev Writer (m : Type → Type) := Path → Text → ExceptT WriteError m Unit

namespace Store

variable {m : Type → Type} [Monad m] [Disk m]

def readLines (path : Path) : ExceptT StoreError m (List Text) := do
  match ← ExceptT.lift (Disk.read path) with
  | .error (.os e) => throw (.unreadable path e)
  | .error .nullByte => throw .nullByte
  | .ok bytes =>
    match Utf8.decode bytes with
    | .error e => throw (.undecodable path e)
    | .ok content => pure content.lines

def attempt (operation : m (Except FileError Unit)) : ExceptT WriteError m Unit := do
  match ← ExceptT.lift operation with
  | .ok _ => pure ()
  | .error e => throw e.toWriteError

/-- Writes a text in place. The file is emptied before the bytes of the text are known. -/
def writeInPlace : Writer m := fun path content => do
  attempt (Disk.create path)
  match Utf8.encode content with
  | .error e => throw (.unencodable e)
  | .ok bytes => attempt (Disk.fill path bytes)

/-- The path of the file beside a file. -/
def besidePath (path : Path) : Path :=
  path.withName (path.name ++ ".tmp")

/-- Writes a text to the file beside another and moves it there. -/
def replaceBy (beside path : Path) (content : Text) : ExceptT WriteError m Unit := do
  writeInPlace beside content
  attempt (Disk.rename beside path)

/-- Writes a text to a file beside the given one, which then takes its place. Whatever happens, the
file beside is gone in the end. -/
def writeAtomic : Writer m := fun path content => do
  let beside := besidePath path
  let result ← Disk.outcome (replaceBy beside path content)
  match ← Disk.outcome (Disk.present beside) with
  | .error e => throw (.os e)
  | .ok true => attempt (Disk.remove beside)
  | .ok false => pure ()
  ExceptT.mk (pure result)

def writeLines (write : Writer m) (path : Path) (lines : List Text) : ExceptT StoreError m Unit := do
  match ← Disk.outcome (write path (Text.unlines lines)) with
  | .ok _ => pure ()
  | .error (.os e) => throw (.unwritable path e)
  | .error .nullByte => throw .nullByte
  | .error (.unencodable e) => throw (.unencodable e)

end Store

end IssueMerge
