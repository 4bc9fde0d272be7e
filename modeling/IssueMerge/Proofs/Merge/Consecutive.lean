import IssueMerge.Proofs.Merge.Resolved
import IssueMerge.Proofs.Resolution.Counted

/-!
Fresh ids when nothing else gives them: they are counted on from the ids of the file, under a stem
that is given or that of the first id with a number.
-/

namespace IssueMerge

open Outcome IssueId

namespace Merge

theorem Resolves.newIds_remaps {lines : List Text} {regions : List Region} {records : List Record}
    {plan : ResolutionPlan} {final : Rebuild} {stem : Option Text} (hstem : stem ≠ some [])
    (h : Resolves { ids := records.map Record.id, stem : NamespaceScan }.source lines regions
      records plan final) :
    plan.remaps.map Resolution.newId =
      let used := stem.getD (inferredStem (records.map Record.id))
      (List.range' (highestNumber used (records.map Record.id) + 1) plan.remaps.length).map
        (ofNumber used) :=
  ResolutionPlan.newIds_of_namespaceScan hstem h.headIds_subset h.baseIds_subset h.planned

/-- The records of the base sides that are remapped get, in order, the ids with the numbers that
follow the largest one in use under the stem. No record of the file has such an id, whatever other
ids there are. -/
theorem fresh_ids_consecutive {lines : List Text} {stem : Option Text} (hstem : stem ≠ some [])
    {merge : Merge} (h : (ofLines lines none stem).result = .ok merge) :
    let ids := (lines.filterMap Record.on?).map Record.id
    let used := stem.getD (inferredStem ids)
    let highest := highestNumber used ids
    (merge.plan.onSide .base).map Resolution.oldId = merge.regions.flatMap Region.baseIds ∧
      merge.plan.remaps = (merge.plan.onSide .base).filter (·.isRemap) ∧
      merge.plan.remaps.map Resolution.newId =
        (List.range' (highest + 1) merge.plan.remaps.length).map (ofNumber used) ∧
      (∀ id ∈ ids, ∀ n, numbered? id = some (used, n) → n ≤ highest) ∧
      ∀ r ∈ merge.plan.remaps, r.newId ∉ ids := by
  intro ids used highest
  have hbound : ∀ id ∈ ids, ∀ n, numbered? id = some (used, n) → n ≤ highest :=
    fun id hid n hn => le_highestNumber hid hn
  have hplan : (merge.plan.onSide .base).map Resolution.oldId =
        merge.regions.flatMap Region.baseIds ∧
      merge.plan.remaps = (merge.plan.onSide .base).filter (·.isRemap) ∧
      merge.plan.remaps.map Resolution.newId =
        (List.range' (highest + 1) merge.plan.remaps.length).map (ofNumber used) := by
    obtain ⟨_, hnone⟩ | ⟨records, final, hresolves, _⟩ := ofLines_eq_ok h
    · rw [hnone]
      exact ⟨rfl, rfl, rfl⟩
    · have hids : records.map Record.id = ids := congrArg _ hresolves.records_eq
      have hremaps := hresolves.newIds_remaps hstem
      rw [hids] at hremaps
      exact ⟨hresolves.settles.map_oldId, hresolves.settles.remaps, hremaps⟩
  obtain ⟨hbases, hremaps, hnew⟩ := hplan
  refine ⟨hbases, hremaps, hnew, hbound, fun r hr hmem => ?_⟩
  have hused : used ≠ [] := NamespaceScan.usedStem_ne_nil (s := { ids, stem }) hstem
  have hnewId : r.newId ∈ merge.plan.remaps.map Resolution.newId := List.mem_map_of_mem hr
  rw [hnew] at hnewId
  obtain ⟨n, hn, hid⟩ := List.mem_map.mp hnewId
  have hle := hbound r.newId hmem n (hid ▸ numbered?_ofNumber hused n)
  have hlt := (List.mem_range'_1.mp hn).1
  omega

/-- Two versions of two issues behind ids of other stems, with zeros in front and with suffixes that
are no numbers. -/
def numberedLines : List Text :=
  ["\x7b\"id\":\"bd-web-41\"\x7d",
    "\x7b\"id\":\"bd-x9\"\x7d",
    "<<<<<<< HEAD",
    "\x7b\"id\":\"bd-007\"\x7d",
    "\x7b\"id\":\"bd-2.1\"\x7d",
    "=======",
    "\x7b\"id\":\"bd-007\"\x7d",
    "\x7b\"id\":\"bd-6\"\x7d",
    "\x7b\"id\":\"bd-2.1\"\x7d",
    ">>>>>>> feature",
    ""]

theorem fresh_ids_consecutive_numberedLines :
    (some "bd" : Option Text) ≠ some [] ∧
      ∃ merge, (ofLines numberedLines none (some "bd")).result = .ok merge ∧
        merge.plan.remaps.map Resolution.newId = (["bd-8", "bd-9"] : List Text) ∧
        let ids := (numberedLines.filterMap Record.on?).map Record.id
        let highest := highestNumber "bd" ids
        (merge.plan.onSide .base).map Resolution.oldId = merge.regions.flatMap Region.baseIds ∧
          merge.plan.remaps = (merge.plan.onSide .base).filter (·.isRemap) ∧
          merge.plan.remaps.map Resolution.newId =
            (List.range' (highest + 1) merge.plan.remaps.length).map (ofNumber "bd") ∧
          (∀ id ∈ ids, ∀ n, numbered? id = some (("bd" : Text), n) → n ≤ highest) ∧
          ∀ r ∈ merge.plan.remaps, r.newId ∉ ids := by
  have hstem : (some "bd" : Option Text) ≠ some [] := by decide
  have hmerge : (ofLines numberedLines none (some "bd")).result.map
      (·.plan.remaps.map Resolution.newId) = .ok ["bd-8", "bd-9"] := by decide +kernel
  obtain ⟨merge, hresult, hnew⟩ := map_eq_ok.mp hmerge
  exact ⟨hstem, merge, hresult, hnew, fresh_ids_consecutive hstem hresult⟩

end Merge

end IssueMerge
