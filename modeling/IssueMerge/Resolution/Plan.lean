import IssueMerge.Text.CodePoint

/-!
Resolution plans: for every record in a conflict, whether it keeps its id, and the table by which
mentions of ids that changed are rewritten.
-/

namespace IssueMerge

/-- The two sides of a conflict. -/
inductive Side where
  | head
  | base
deriving DecidableEq

/-- What becomes of an id. -/
inductive Action where
  | keep
  | remap
deriving DecidableEq

/-- How the id of one record is resolved. -/
structure Resolution where
  action : Action
  side : Side
  oldId : Text
  newId : Text
  reason : Text
deriving DecidableEq

namespace Resolution

/-- The record keeps its id. -/
def keep (side : Side) (id reason : Text) : Resolution :=
  ⟨.keep, side, id, id, reason⟩

/-- A record of the base side gets a fresh id. -/
def remap (oldId newId reason : Text) : Resolution :=
  ⟨.remap, .base, oldId, newId, reason⟩

def isRemap (r : Resolution) : Bool :=
  r.action == .remap

end Resolution

/-- Old ids and what replaces them, in the order in which they were first replaced. -/
abbrev RemapTable := List (Text × Text)

namespace RemapTable

def find? (table : RemapTable) (id : Text) : Option Text :=
  (List.find? (·.1 = id) table).map (·.2)

/-- Notes what replaces an id, unless something does already. -/
def note (table : RemapTable) (oldId newId : Text) : RemapTable :=
  if (find? table oldId).isSome then table else table ++ [(oldId, newId)]

/-- Sets what replaces an id, in its place if something does already. -/
def set (table : RemapTable) (oldId newId : Text) : RemapTable :=
  if (find? table oldId).isSome then
    table.map fun p => if p.1 = oldId then (oldId, newId) else p
  else
    table ++ [(oldId, newId)]

/-- The table of some pairs; the last one of an id counts. -/
def ofPairs (pairs : List (Text × Text)) : RemapTable :=
  pairs.foldl (fun table p => set table p.1 p.2) []

def without (table : RemapTable) (ids : List Text) : RemapTable :=
  table.filter (·.1 ∉ ids)

end RemapTable

/-- The outcome of resolving all conflicts of a file. -/
structure ResolutionPlan where
  /-- One entry for each record, the head side first. -/
  resolutions : List Resolution := []
  table : RemapTable := []
  /-- The ids of head records. -/
  headIds : List Text := []

namespace ResolutionPlan

def onSide (plan : ResolutionPlan) (side : Side) : List Resolution :=
  plan.resolutions.filter (·.side = side)

def remaps (plan : ResolutionPlan) : List Resolution :=
  plan.resolutions.filter (·.isRemap)

end ResolutionPlan

end IssueMerge
