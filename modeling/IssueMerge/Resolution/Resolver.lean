import IssueMerge.Conflict.Region
import IssueMerge.Resolution.Allocator
import IssueMerge.Resolution.Plan

/-!
The policy by which ids in conflicts are resolved. Every record of the head side keeps its id, in
all regions before any record of the base side is looked at. A record of the base side keeps its id
unless a record before it has it; then it gets a fresh one.
-/

namespace IssueMerge

/-- Why a record keeps or changes its id, as plans say it. -/
def headReason : Text := "HEAD version"
def freeReason : Text := "no collision"
def collisionReason : Text := "identifier present in both sides"

/-- The state of resolution: the ids that records have got so far, and the plan up to here. -/
structure Resolver where
  claimed : List Text := []
  table : RemapTable := []
  resolutions : List Resolution := []
  allocator : Allocator := {}

namespace Resolver

/-- A record of the base side keeps its id. -/
def keep (s : Resolver) (id : Text) : Resolver :=
  { s with
    claimed := id :: s.claimed
    resolutions := s.resolutions ++ [.keep .base id freeReason]
    allocator := s.allocator.reserve id }

/-- A record of the base side gets a fresh id, which the given allocator gave out. -/
def remap (s : Resolver) (id newId : Text) (allocator : Allocator) : Resolver :=
  { claimed := newId :: s.claimed
    table := s.table.note id newId
    resolutions := s.resolutions ++ [.remap id newId collisionReason]
    allocator := allocator.reserve newId }

/-- Resolves the ids of the base side, one after the other. -/
def run (source : IdSource) (s : Resolver) :
    List Text → Except AllocationError Unit × Resolver
  | [] => (.ok (), s)
  | id :: rest =>
    if id ∈ s.claimed then
      match s.allocator.next source with
      | (.ok newId, allocator) => (s.remap id newId allocator).run source rest
      | (.error e, allocator) => (.error e, { s with allocator })
    else
      (s.keep id).run source rest

/-- The state in which the records of the head side have their ids. -/
def start (headIds reserved : List Text) : Resolver where
  claimed := headIds
  resolutions := headIds.map fun id => .keep .head id headReason
  allocator := { reserved := reserved ++ headIds }

end Resolver

/-- A plan, or why there is none, and how many questions the source was asked. -/
structure ResolutionOutcome where
  plan : Except AllocationError ResolutionPlan
  asked : Nat

/-- Resolves all conflicts of a file. Fresh ids avoid the reserved ones, which are no claims: a
record changes its id only for another record in a conflict. -/
def ResolutionPlan.resolve (regions : List Region) (source : IdSource) (reserved : List Text) :
    ResolutionOutcome :=
  let headIds := regions.flatMap Region.headIds
  let (result, s) := (Resolver.start headIds reserved).run source (regions.flatMap Region.baseIds)
  { plan := result.map fun _ =>
      { resolutions := s.resolutions, table := s.table, headIds := headIds.eraseDups }
    asked := s.allocator.asked }

end IssueMerge
