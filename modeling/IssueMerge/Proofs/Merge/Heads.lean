import IssueMerge.Proofs.Merge.Rebuilt
import IssueMerge.Proofs.Resolution.Policy

/-!
The head side has priority. Its records keep their ids, and no record of the base side ends up with
one of these. A reference on the head side means what it meant; so if the base sides have distinct
ids, which are reserved, no line of the head side changes.
-/

namespace IssueMerge

theorem ResolutionPlan.idOn?_head {plan : ResolutionPlan} {lines : List Text} {line : Text}
    (hkept : (.head, line) ∈ plan.kept lines) : ∃ r, Record.on? line = some r ∧
      Record.idOn? (Origin.head.emit plan line) = some r.id := by
  have hon := (stays hkept).on? (.inl rfl)
  obtain ⟨r, hr⟩ := Option.isSome_iff_exists.mp hon
  exact ⟨r, hr, Origin.idOn?_emit hr plan .head⟩

namespace Merge

variable {source : IdSource} {reserved lines : List Text} {regions : List Region}
  {plan : ResolutionPlan} {final : Rebuild}

namespace Rebuilds

variable (h : Rebuilds source reserved lines regions plan final)

include h

theorem newId_eq {r : Resolution} {line : Text} {record : Record}
    (hkept : (.base r, line) ∈ plan.kept lines) (hon : Record.on? line = some record) :
    (Origin.base r).newId?.getD record.id = r.newId := by
  simp only [Origin.newId?]
  cases hremap : r.isRemap with
  | true => rfl
  | false =>
      have hr : r ∈ plan.onSide .base := (ResolutionPlan.stays hkept).resolution r rfl
      exact (h.oldId_eq hkept hon).symm.trans (h.settles.assigned.newId_eq hr hremap).symm

theorem idOn?_base {r : Resolution} {line : Text} (hkept : (.base r, line) ∈ plan.kept lines) :
    Record.idOn? ((Origin.base r).emit plan line) = some r.newId := by
  have hon := (ResolutionPlan.stays hkept).on? (.inr rfl)
  obtain ⟨record, hrecord⟩ := Option.isSome_iff_exists.mp hon
  rw [Origin.idOn?_emit hrecord, h.newId_eq hkept hrecord]

theorem newId_notMem_headIds {r : Resolution} (hr : r ∈ plan.onSide .base) :
    r.newId ∉ regions.flatMap Region.headIds := by
  have hfree := (h.settles.assigned.nodup_newId_of_claimed (List.subset_append_right _ _)).2
  exact hfree r.newId (List.mem_map_of_mem hr)

/-- If no id stands twice on the base sides, all that changes its id collides with a head side, and
there the references are not rewritten. -/
theorem emit_head (hreserved : regions.flatMap Region.baseIds ⊆ reserved)
    (hnodup : (regions.flatMap Region.baseIds).Nodup) (line : Text) :
    Origin.head.emit plan line = line := by
  apply Origin.emit_eq_self
  intro r _
  rw [Origin.settle, Origin.table, h.settles.table_without_headIds hnodup hreserved,
    Record.rewrite_nil]
  rfl

end Rebuilds

/-- The lines of a new file that are for the records in conflicts. Each record of a head side is
emitted under its own id, and each one of a base side under an id that no record of a head side has.
If the ids of the base sides are distinct and were reserved, each record of a head side is emitted as
the line it stands on. -/
theorem heads_undisturbed (h : Rebuilds source reserved lines regions plan final) :
    final.output = (plan.kept lines).map (fun p => p.1.emit plan p.2) ∧
      ((recordsKept (plan.kept lines)).filter (·.1.isHead)).map Prod.snd =
        regions.flatMap Region.head ∧
      (recordsKept (plan.kept lines)).filterMap (fun p => p.1.resolution?.map (·, p.2)) =
        (plan.onSide .base).zip (regions.flatMap Region.base) ∧
      (∀ line, (.head, line) ∈ plan.kept lines → ∃ r, Record.on? line = some r ∧
        Record.idOn? (Origin.head.emit plan line) = some r.id) ∧
      (∀ r line, (.base r, line) ∈ plan.kept lines →
        ∃ id, Record.idOn? ((Origin.base r).emit plan line) = some id ∧
          id ∉ regions.flatMap Region.headIds) ∧
      (regions.flatMap Region.baseIds ⊆ reserved → (regions.flatMap Region.baseIds).Nodup →
        ∀ line, Origin.head.emit plan line = line) := by
  refine ⟨h.output_eq, h.heads_kept, h.bases_kept, fun line => ResolutionPlan.idOn?_head, ?_,
    h.emit_head⟩
  intro r line hkept
  have hr : r ∈ plan.onSide .base := (ResolutionPlan.stays hkept).resolution r rfl
  exact ⟨r.newId, h.idOn?_base hkept, h.newId_notMem_headIds hr⟩

/-- The base side of the first conflict has an id of the head side of the second one, and the other
way round. Both head sides mention these ids. -/
def crossingLines : List Text :=
  ["<<<<<<< ours",
    "\x7b\"id\":\"bd-1\",\"notes\":\"bd-1, bd-2 and bd-3\"\x7d\r",
    "\x7b\"id\":\"bd-2\",\"dependencies\":[\x7b\"issue_id\":\"bd-2\",\"depends_on_id\":\"bd-1\"\x7d]\x7d",
    "=======",
    "\x7b\"id\":\"bd-1\",\"notes\":\"see bd-3\"\x7d",
    "\x7b\"id\":\"bd-3\"\x7d",
    ">>>>>>> theirs",
    "<<<<<<< ours",
    "\x7b\"id\":\"bd-3\",\"notes\":\"after bd-1\"\x7d",
    "=======",
    "\x7b\"id\":\"bd-2\",\"notes\":\"bd-1\"\x7d",
    ">>>>>>> theirs"]

theorem heads_undisturbed_crossingLines : ∃ regions plan final,
    Rebuilds countingSource ["bd-1", "bd-2", "bd-3"] crossingLines regions plan final ∧
      plan.table.ids = (["bd-1", "bd-3", "bd-2"] : List Text) ∧
      regions.flatMap Region.headIds = (["bd-1", "bd-2", "bd-3"] : List Text) ∧
      ∀ line, Origin.head.emit plan line = line := by
  have hids : ((rebuilt? countingSource ["bd-1", "bd-2", "bd-3"] crossingLines).map fun found =>
      (found.2.1.table.ids, found.1.flatMap Region.headIds, found.1.flatMap Region.baseIds)) =
        (some (["bd-1", "bd-3", "bd-2"], ["bd-1", "bd-2", "bd-3"], ["bd-1", "bd-3", "bd-2"]) :
          Option (List Text × List Text × List Text)) := by
    decide +kernel
  obtain ⟨⟨regions, plan, final⟩, hfound, hids⟩ := Option.map_eq_some_iff.mp hids
  obtain ⟨htable, hids⟩ := Prod.mk.inj hids
  obtain ⟨hheads, hbases⟩ := Prod.mk.inj hids
  have h := rebuilds_of_rebuilt? hfound
  obtain ⟨_, _, _, _, _, hsame⟩ := heads_undisturbed h
  refine ⟨regions, plan, final, h, htable, hheads, hsame ?_ ?_⟩
  · rw [hbases]
    decide
  · rw [hbases]
    decide

end Merge

end IssueMerge
