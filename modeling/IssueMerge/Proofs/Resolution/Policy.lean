import IssueMerge.Proofs.Rebuild.Lockstep
import IssueMerge.Proofs.Resolution.Settled
import IssueMerge.Reference.Rewrite

/-!
The policy by which ids in conflicts are resolved, whatever ids are reserved and whatever the source
answers. Every record of the head side keeps its id. A record of the base side keeps its id unless a
record of the head side has it or a record of the base side in front of it ends up with it.
-/

namespace IssueMerge

namespace RemapTable

theorem isSome_find? {table : RemapTable} {x : Text} :
    (table.find? x).isSome = true ↔ x ∈ table.ids := by
  simp [find?, ids]

theorem nodup_ids_note {table : RemapTable} (h : table.ids.Nodup) (oldId newId : Text) :
    (table.note oldId newId).ids.Nodup := by
  simp only [note]
  split
  · exact h
  · next hnone =>
    have hnew : oldId ∉ table.ids := fun hmem => hnone (isSome_find?.mpr hmem)
    simp only [ids, List.map_append] at h hnew ⊢
    refine List.nodup_append.mpr ⟨h, List.pairwise_singleton _ oldId, ?_⟩
    intro x hx y hy heq
    rw [heq, List.mem_singleton.mp hy] at hx
    exact hnew hx

theorem nodup_ids_noteAll {table : RemapTable} (h : table.ids.Nodup)
    (resolutions : List Resolution) : (table.noteAll resolutions).ids.Nodup := by
  induction resolutions generalizing table with
  | nil => exact h
  | cons r rest ih =>
      simp only [noteAll, List.foldl_cons] at ih ⊢
      split
      · exact ih (nodup_ids_note h r.oldId r.newId)
      · exact ih h

end RemapTable

namespace Assigned

variable {source : IdSource} {taken claimed ids : List Text} {assigned : List Resolution}

/-- No id is assigned twice, and none that is claimed. -/
theorem nodup_newId_of_claimed (h : Assigned source taken claimed ids assigned)
    (hclaimed : claimed ⊆ taken) :
    (assigned.map Resolution.newId).Nodup ∧ ∀ x ∈ assigned.map Resolution.newId, x ∉ claimed := by
  induction h with
  | nil => exact ⟨List.nodup_nil, fun _ hx => absurd hx List.not_mem_nil⟩
  | @keep taken claimed ids id rest hfree _ ih =>
      obtain ⟨hnodup, hrest⟩ := ih (List.cons_subset_cons id hclaimed)
      refine ⟨List.nodup_cons.mpr ⟨fun hid => hrest id hid List.mem_cons_self, hnodup⟩, ?_⟩
      refine List.forall_mem_cons.mpr ⟨hfree, ?_⟩
      exact fun x hx hmem => hrest x hx (List.mem_cons_of_mem id hmem)
  | @remap taken claimed ids id newId rest _ hgiven _ ih =>
      obtain ⟨hnodup, hrest⟩ := ih (List.cons_subset_cons newId hclaimed)
      refine ⟨List.nodup_cons.mpr ⟨fun hid => hrest newId hid List.mem_cons_self, hnodup⟩, ?_⟩
      refine List.forall_mem_cons.mpr ⟨fun hmem => hgiven.fresh (hclaimed hmem), ?_⟩
      exact fun x hx hmem => hrest x hx (List.mem_cons_of_mem newId hmem)

theorem claimed_or_in_front {claimed : List Text} {first : Resolution} {front : List Resolution}
    {x : Text} : x ∈ claimed ∨ x ∈ (first :: front).map Resolution.newId ↔
      x ∈ first.newId :: claimed ∨ x ∈ front.map Resolution.newId := by
  simp only [List.map_cons, List.mem_cons]
  exact or_left_comm.trans or_assoc.symm

/-- What was claimed from the start and the entries in front decide on an entry. -/
theorem decided (h : Assigned source taken claimed ids assigned) {front back : List Resolution}
    {r : Resolution} (heq : assigned = front ++ r :: back) :
    r = if r.oldId ∈ claimed ∨ r.oldId ∈ front.map Resolution.newId
      then .remap r.oldId r.newId collisionReason else .keep .base r.oldId freeReason := by
  induction h generalizing front with
  | nil => cases front <;> cases heq
  | keep hfree _ ih =>
      cases front with
      | nil =>
          obtain ⟨rfl, -⟩ := List.cons.inj heq
          exact (if_neg (not_or.mpr ⟨hfree, List.not_mem_nil⟩)).symm
      | cons first front =>
          obtain ⟨rfl, hrest⟩ := List.cons.inj heq
          simp only [claimed_or_in_front]
          exact ih hrest
  | remap hcollides _ _ ih =>
      cases front with
      | nil =>
          obtain ⟨rfl, -⟩ := List.cons.inj heq
          exact (if_pos (.inl hcollides)).symm
      | cons first front =>
          obtain ⟨rfl, hrest⟩ := List.cons.inj heq
          simp only [claimed_or_in_front]
          exact ih hrest

end Assigned

/-- A plan for some regions that follows the policy; fresh ids avoid the reserved ones. -/
structure ResolutionPlan.Policy (plan : ResolutionPlan) (regions : List Region)
    (reserved : List Text) : Prop where
  /-- First every record of the head side keeps its id, in order. -/
  heads_first : plan.resolutions =
    (regions.flatMap Region.headIds).map (Resolution.keep .head · headReason) ++ plan.onSide .base
  /-- Behind them there is one entry for each record of the base side, in order. -/
  bases_behind : (plan.onSide .base).map Resolution.oldId = regions.flatMap Region.baseIds
  /-- A record of the base side is given another id if a record of the head side has its id or one
  in front of it on the base side gets it, and otherwise keeps its own. -/
  decided : ∀ front r back, plan.onSide .base = front ++ r :: back →
    r = if r.oldId ∈ regions.flatMap Region.headIds ∨ r.oldId ∈ front.map Resolution.newId
      then .remap r.oldId r.newId collisionReason else .keep .base r.oldId freeReason
  finalIds_nodup : ((plan.onSide .base).map Resolution.newId).Nodup
  finalIds_free : ∀ x ∈ (plan.onSide .base).map Resolution.newId,
    x ∉ regions.flatMap Region.headIds
  fresh : ∀ r ∈ plan.remaps, r.newId ∉ reserved
  table_nodup : plan.table.ids.Nodup
  mem_table : ∀ x, x ∈ plan.table.ids ↔ ∃ r ∈ plan.remaps, r.oldId = x
  /-- An id is replaced by what the first remap of it gives. -/
  first_remap : ∀ x, plan.table.find? x =
    (plan.remaps.find? (·.oldId = x)).map Resolution.newId
  mem_headIds : ∀ x, x ∈ plan.headIds ↔ x ∈ regions.flatMap Region.headIds

/-- Plans follow the policy. -/
theorem resolution_policy {regions : List Region} {source : IdSource} {reserved : List Text}
    {plan : ResolutionPlan} (h : (ResolutionPlan.resolve regions source reserved).plan = .ok plan) :
    plan.Policy regions reserved := by
  have hsettles := ResolutionPlan.settles_of_resolve h
  have hassigned := hsettles.assigned
  obtain ⟨hnodup, hfree⟩ := hassigned.nodup_newId_of_claimed (List.subset_append_right _ _)
  have hfind : ∀ x, plan.table.find? x = (plan.remaps.find? (·.oldId = x)).map Resolution.newId := by
    intro x
    have hempty : RemapTable.find? [] x = none := rfl
    rw [hsettles.table, RemapTable.find?_noteAll, hempty, Option.none_or, hsettles.remaps,
      List.find?_filter]
    simp only [Bool.decide_and, Bool.decide_eq_true]
  refine {
    heads_first := hsettles.resolutions
    bases_behind := hsettles.map_oldId
    decided := fun front r back heq => hassigned.decided heq
    finalIds_nodup := hnodup
    finalIds_free := hfree
    fresh := ?_
    table_nodup := ?_
    mem_table := ?_
    first_remap := hfind
    mem_headIds := hsettles.mem_headIds }
  · intro r hr hreserved
    have hnew : r.newId ∈ newIds (plan.onSide .base) := by
      rw [hsettles.newIds_eq]
      exact List.mem_map_of_mem hr
    exact hassigned.notMem_newIds (List.mem_append_left _ hreserved) hnew
  · have hempty : (RemapTable.ids []).Nodup := List.nodup_nil
    rw [hsettles.table]
    exact RemapTable.nodup_ids_noteAll hempty _
  · intro x
    rw [← RemapTable.isSome_find?, hfind, Option.isSome_map, List.find?_isSome]
    simp only [decide_eq_true_eq]

/-- Regions whose base sides collide with a head side, with themselves and with a fresh id. -/
def tangledRegions : List Region :=
  [{ openLine := 1, head := [{ id := "bd-1" }]
     base := [{ id := "bd-1" }, { id := "bd-2" }, { id := "bd-2" }] },
   { openLine := 9, head := [{ id := "bd-7" }], base := [{ id := "bd-3" }] }]

theorem resolution_policy_tangledRegions : ∃ plan,
    (ResolutionPlan.resolve tangledRegions countingSource ["bd-4"]).plan = .ok plan ∧
      plan.remaps.map Resolution.oldId = (["bd-1", "bd-2", "bd-3"] : List Text) ∧
      plan.Policy tangledRegions ["bd-4"] := by
  have hremaps : (ResolutionPlan.resolve tangledRegions countingSource ["bd-4"]).plan.toOption.map
      (·.remaps.map Resolution.oldId) = some (["bd-1", "bd-2", "bd-3"] : List Text) := by
    decide +kernel
  cases hplan : (ResolutionPlan.resolve tangledRegions countingSource ["bd-4"]).plan with
  | error e =>
      rw [hplan] at hremaps
      cases hremaps
  | ok plan =>
      rw [hplan] at hremaps
      exact ⟨plan, rfl, Option.some.inj hremaps, resolution_policy hplan⟩

end IssueMerge
