import IssueMerge.Rebuild
import IssueMerge.Resolution.Resolver
import IssueMerge.Store

/-!
Resolving the conflicts of a file of issues: its regions are found, a plan is made for them, and the
file is rebuilt from the plan. Everything is known before anything is written.
-/

namespace IssueMerge

/-- Why conflicts were not resolved. -/
inductive MergeError where
  | store (e : StoreError)
  | numeral (e : Numeral.TooLong)
  | allocation (e : AllocationError)
  | rebuild (e : RebuildError)
deriving DecidableEq

def MergeError.message : MergeError → Text
  | .store e => e.message
  | .numeral e => e.message
  | .allocation e => e.message
  | .rebuild e => e.message

/-- What a file becomes when its conflicts are resolved. -/
structure Merge where
  regions : List Region := []
  plan : ResolutionPlan := {}
  lines : List Text
  recordsRewritten : Nat := 0

/-- An attempt to resolve conflicts, and how many questions the source of ids was asked. -/
structure Attempt (α : Type) where
  result : Except MergeError α
  asked : Nat := 0

namespace Merge

def hasConflicts (merge : Merge) : Bool :=
  !merge.regions.isEmpty

def content (merge : Merge) : Text :=
  Text.unlines merge.lines

/-- Resolves conflict regions that were found in lines on which there are records of the given
ids. -/
def ofRegions (regions : List Region) (ids : List Text) (source : IdSource) (lines : List Text) :
    Attempt Merge :=
  let outcome := ResolutionPlan.resolve regions source ids
  { result := do
      let plan ← outcome.plan.mapError .allocation
      let rebuilt ← (plan.rebuild lines).mapError .rebuild
      .ok { regions, plan, lines := rebuilt.output, recordsRewritten := rebuilt.recordsRewritten }
    asked := outcome.asked }

/-- Resolves the conflicts in some lines. Without a source, ids are counted on from those in the
file, under the given stem if there is one. -/
def ofLines (lines : List Text) (source : Option IdSource) (stem : Option Text) : Attempt Merge :=
  match Region.ofLines lines with
  | .error e => { result := .error (.numeral e) }
  | .ok [] => { result := .ok { lines } }
  | .ok regions =>
    match Record.ofLines lines with
    | .error e => { result := .error (.numeral e) }
    | .ok records =>
      let ids := records.map Record.id
      ofRegions regions ids (source.getD { ids, stem : NamespaceScan }.source) lines

end Merge

/-- What was done to a file. -/
structure MergeReport where
  path : Path
  merge : Merge
  written : Bool := false

/-- How to resolve the conflicts of a file. -/
structure MergeOptions (m : Type → Type) where
  source : Option IdSource := none
  stem : Option Text := none
  dryRun : Bool := false
  write : Writer m

section

variable {m : Type → Type} [Monad m] [Disk m]

def detectConflicts (path : Path) : ExceptT MergeError m (List Region) := do
  match ← Disk.outcome (Store.readLines path) with
  | .error e => throw (.store e)
  | .ok lines =>
    match Region.ofLines lines with
    | .error e => throw (.numeral e)
    | .ok regions => pure regions

/-- Resolves the conflicts of a file. Nothing is written when there are none, nor on a dry run. -/
def resolveConflicts (path : Path) (options : MergeOptions m) : m (Attempt MergeReport) := do
  match ← (Store.readLines path).run with
  | .error e => pure { result := .error (.store e) }
  | .ok lines =>
    let attempt := Merge.ofLines lines options.source options.stem
    match attempt.result with
    | .error e => pure { result := .error e, asked := attempt.asked }
    | .ok merge =>
      if !merge.hasConflicts || options.dryRun then
        pure { result := .ok { path, merge }, asked := attempt.asked }
      else
        match ← (Store.writeLines options.write path merge.lines).run with
        | .error e => pure { result := .error (.store e), asked := attempt.asked }
        | .ok _ => pure { result := .ok { path, merge, written := true }, asked := attempt.asked }

end

end IssueMerge
