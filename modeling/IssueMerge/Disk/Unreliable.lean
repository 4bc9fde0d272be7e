import IssueMerge.Disk.Memory

/-!
A disk in memory on which an operation may be refused at any time: a file is not read, not opened for
writing, filled in part only, or not moved. Looking for a file and removing one are never refused
without need.
-/

namespace IssueMerge

/-- What stops an operation. -/
structure Fault where
  error : OsError
  /-- How many bytes reach a file that is being filled. -/
  filled : Nat := 0

/-- A disk in memory, how many operations were tried on it, and which of them are stopped. -/
structure UnreliableDisk where
  disk : MemoryDisk
  count : Nat := 0
  fault? : Nat → Option Fault := fun _ => none

namespace UnreliableDisk

/-- Tries an operation. One that is stopped leaves what `partly` says. -/
def attempt {α : Type} (partly : Fault → MemoryDisk → MemoryDisk)
    (operation : StateM MemoryDisk (Except FileError α)) :
    StateM UnreliableDisk (Except FileError α) := fun s =>
  match s.fault? s.count with
  | some fault =>
    (.error (.os fault.error), { s with count := s.count + 1, disk := partly fault s.disk })
  | none =>
    let (result, disk) := operation s.disk
    (result, { s with count := s.count + 1, disk })

/-- Does an operation that is never stopped. -/
def perform {α : Type} (operation : StateM MemoryDisk α) : StateM UnreliableDisk α := fun s =>
  let (result, disk) := operation s.disk
  (result, { s with disk })

/-- The disk with a file that is filled in part. -/
def fillPart (p : Path) (content : Bytes) (fault : Fault) (d : MemoryDisk) : MemoryDisk :=
  (MemoryDisk.change (·.putFile p (content.take fault.filled)) d).2

instance : Disk (StateM UnreliableDisk) where
  workingDirectory := perform Disk.workingDirectory
  kind? p := perform (Disk.kind? p)
  read p := attempt (fun _ d => d) (Disk.read p)
  create p := attempt (fun _ d => d) (Disk.create p)
  fill p content := attempt (fillPart p content) (Disk.fill p content)
  rename source target := attempt (fun _ d => d) (Disk.rename source target)
  remove p := perform (Disk.remove p)

end UnreliableDisk

end IssueMerge
