import IssueMerge.Issue.IdSource

/-!
Allocation of fresh ids. The source is asked until it gives an id with a number; from then on the
allocator counts up by itself. An id that is reserved is passed over.
-/

namespace IssueMerge

/-- Why no fresh id was found. -/
inductive AllocationError where
  | sourceFailed (reason : Text)
  | exhausted
  | numeral (e : Numeral.TooLong)
deriving DecidableEq

/-- How often in a row the source may answer with an id that is reserved. -/
def maxAttempts : Nat := 100

def AllocationError.message : AllocationError → Text
  | .sourceFailed reason => "Failed to get next ID: " ++ reason
  | .exhausted =>
    "Failed to get next ID: source returned ids already in use " ++ Numeral.digits maxAttempts
      ++ " times in a row"
  | .numeral e => e.message

/-- The stem and the number of the next id to try. -/
structure Cursor where
  stem : Text
  number : Nat
deriving DecidableEq

/-- The state of allocation. -/
structure Allocator where
  /-- How many questions the source was asked. -/
  asked : Nat := 0
  cursor : Option Cursor := none
  reserved : List Text := []

namespace Allocator

def reserve (a : Allocator) (id : Text) : Allocator :=
  { a with reserved := id :: a.reserved }

/-- The first id from the cursor on that is not reserved, and the cursor behind it. As every id
passed over is another reserved one, it is enough to pass over `skips`, the number of them. -/
def countUp (reserved : List Text) :
    (skips : Nat) → Cursor → Except Numeral.TooLong (Text × Cursor)
  | 0, c => do
    let id ← IssueId.format c.stem c.number
    .ok (id, { c with number := c.number + 1 })
  | skips + 1, c => do
    let id ← IssueId.format c.stem c.number
    if id ∈ reserved then countUp reserved skips { c with number := c.number + 1 }
    else .ok (id, { c with number := c.number + 1 })

def fromCursor (a : Allocator) (c : Cursor) : Except AllocationError Text × Allocator :=
  match countUp a.reserved a.reserved.length c with
  | .ok (id, c) => (.ok id, { a with cursor := some c })
  | .error e => (.error (.numeral e), a)

/-- A fresh id from the source, which is asked at most `attempts` times. -/
def fromSource (source : IdSource) : (attempts : Nat) → Allocator →
    Except AllocationError Text × Allocator
  | 0, a => (.error .exhausted, a)
  | attempts + 1, a =>
    let a' := { a with asked := a.asked + 1 }
    match source a.asked with
    | .error reason => (.error (.sourceFailed reason), a')
    | .ok id =>
      match IssueId.parts id with
      | .error e => (.error (.numeral e), a')
      | .ok ⟨stem, some n⟩ =>
        let c : Cursor := ⟨stem, n + 1⟩
        if id ∈ a.reserved then a'.fromCursor c else (.ok id, { a' with cursor := some c })
      | .ok ⟨_, none⟩ =>
        if id ∈ a.reserved then fromSource source attempts a' else (.ok id, a')

def next (a : Allocator) (source : IdSource) : Except AllocationError Text × Allocator :=
  match a.cursor with
  | some c => a.fromCursor c
  | none => fromSource source maxAttempts a

end Allocator

end IssueMerge
