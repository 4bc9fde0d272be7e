import IssueMerge.Disk.Path
import IssueMerge.Text.Quoted
import IssueMerge.Text.Lines
import IssueMerge.Text.Utf8

/-!
What the program asks of a disk, and the ways in which a disk refuses. The program is written over
any disk, so that it can run on files and be reasoned about on a disk in memory.
-/

namespace IssueMerge

/-- Why the system refuses an operation. -/
inductive Refusal where
  | noEntry
  | busy
  | notDirectory
  | isDirectory
  | nameTooLong
  | other (code : Nat) (text : Text)
deriving DecidableEq

/-- A refused operation, with the path or the two paths it was for. -/
inductive OsError where
  | on (refusal : Refusal) (path : Path)
  | between (refusal : Refusal) (source target : Path)
  | bare (text : Text)
deriving DecidableEq

/-- Why an operation on a file fails: it is refused, or the path holds a character that no path can
have. -/
inductive FileError where
  | os (e : OsError)
  | nullByte
deriving DecidableEq

/-- What is found at a path. -/
inductive NodeKind where
  | file
  | directory
deriving DecidableEq

/-- The operations of a disk. -/
class Disk (m : Type → Type) where
  /-- The names that lead from the root to the working directory. -/
  workingDirectory : m (List Text)
  /-- What is found at a path; `none` if nothing is. -/
  kind? : Path → m (Except FileError (Option NodeKind))
  /-- The content of a file. -/
  read : Path → m (Except FileError Bytes)
  /-- Makes an empty file, or empties a file. -/
  create : Path → m (Except FileError Unit)
  /-- Gives a file that was created its content. -/
  fill : Path → Bytes → m (Except FileError Unit)
  /-- Moves a file, in place of a file that may be there. -/
  rename : (source target : Path) → m (Except FileError Unit)
  /-- Removes a file. -/
  remove : Path → m (Except FileError Unit)

namespace Refusal

/-- The number of a refusal in messages. -/
def code : Refusal → Nat
  | noEntry => 2
  | busy => 16
  | notDirectory => 20
  | isDirectory => 21
  | nameTooLong => 36
  | other code _ => code

def text : Refusal → Text
  | noEntry => "No such file or directory"
  | busy => "Device or resource busy"
  | notDirectory => "Not a directory"
  | isDirectory => "Is a directory"
  | nameTooLong => "File name too long"
  | other _ text => text

def message (r : Refusal) : Text :=
  "[Errno " ++ Numeral.digits r.code ++ "] " ++ r.text

end Refusal

def OsError.message : OsError → Text
  | .on refusal path => refusal.message ++ ": " ++ path.toText.quoted
  | .between refusal source target =>
    refusal.message ++ ": " ++ source.toText.quoted ++ " -> " ++ target.toText.quoted
  | .bare text => text

def FileError.message : FileError → Text
  | .os e => e.message
  | .nullByte => "embedded null byte"

namespace Path

/-- No path can have a null character. -/
def hasNull (p : Path) : Bool :=
  p.parts.any fun part => part.any (·.val == 0)

end Path

namespace Disk

variable {m : Type → Type} [Monad m]

/-- The outcome of a computation that may fail, as part of one that may fail otherwise. -/
def outcome {ε δ α : Type} (x : ExceptT ε m α) : ExceptT δ m (Except ε α) :=
  ExceptT.lift x.run

variable [Disk m]

/-- Is there anything at a path? A path that cannot be is treated as one with nothing there. -/
def present (p : Path) : ExceptT OsError m Bool := do
  match ← ExceptT.lift (Disk.kind? p) with
  | .ok kind => pure kind.isSome
  | .error .nullByte => pure false
  | .error (.os e) => throw e

def isDirectory (p : Path) : ExceptT OsError m Bool := do
  match ← ExceptT.lift (Disk.kind? p) with
  | .ok kind => pure (kind = some .directory)
  | .error .nullByte => pure false
  | .error (.os e) => throw e

end Disk

end IssueMerge
