import IssueMerge.Proofs.Merge.Resolved
import IssueMerge.Proofs.Reference.Tokens
import Mathlib.Data.List.Nodup

/-!
References in a resolved file. Where no id stands twice on base sides, every record there gets its own
id, references on base sides follow it, and references on head sides stay as they are.
-/

namespace IssueMerge

namespace Merge

variable {source : IdSource} {lines : List Text} {regions : List Region} {records : List Record}
  {plan : ResolutionPlan} {final : Rebuild}

namespace Resolves

theorem oldId_eq (h : Resolves source lines regions records plan final) {r : Resolution}
    {line : Text} {record : Record} (hkept : (.base r, line) ∈ plan.kept lines)
    (hon : Record.on? line = some record) : r.oldId = record.id :=
  h.rebuilds.oldId_eq hkept hon

theorem baseId_ne_nil (h : Resolves source lines regions records plan final) {x : Text}
    (hx : x ∈ regions.flatMap Region.baseIds) : x ≠ [] := by
  have hids := h.baseIds_subset hx
  rw [h.records_eq] at hids
  obtain ⟨r, hr, rfl⟩ := List.mem_map.mp hids
  obtain ⟨line, _, hon⟩ := List.mem_filterMap.mp hr
  exact (Record.faithful_of_ofLine? (Record.on?_eq_some.mp hon)).id_ne_nil

theorem mem_of_table (h : Resolves source lines regions records plan final) {x : Text}
    (hx : x ∈ plan.table.ids) : x ∈ regions.flatMap Region.baseIds := by
  obtain ⟨p, hp, rfl⟩ := List.mem_map.mp hx
  rw [h.settles.table] at hp
  cases RemapTable.mem_noteAll hp with
  | inl hp => exact absurd hp List.not_mem_nil
  | inr hfound =>
      obtain ⟨r, hr, _, rfl⟩ := hfound
      rw [← h.settles.map_oldId]
      exact List.mem_map_of_mem hr

section

variable (h : Resolves source lines regions records plan final)
  (hnodup : (regions.flatMap Region.baseIds).Nodup)

include h hnodup

theorem finalId_injective {x y : Text} (hx : x ∈ regions.flatMap Region.baseIds)
    (hy : y ∈ regions.flatMap Region.baseIds) (heq : plan.finalId x = plan.finalId y) : x = y := by
  have hnew := h.settles.assigned.nodup_newId
    fun _ hid => List.mem_append_left _ (h.baseIds_subset hid)
  rw [← h.settles.map_finalId hnodup] at hnew
  exact List.inj_on_of_nodup_map hnew hx hy heq

theorem find?_table_eq (x : Text) : (plan.table.find? x).getD x =
    if x ∈ regions.flatMap Region.baseIds then plan.finalId x else x := by
  rw [h.settles.find?_table hnodup]
  split
  · rfl
  · next hx => exact h.settles.finalId_of_notMem hx

/-- A record of the head side is emitted as it is. -/
theorem settle_head (r : Record) : Origin.head.settle plan r = r := by
  have hempty := h.settles.table_without_headIds hnodup h.baseIds_subset
  have hsettle : Origin.head.settle plan r = r.rewrite (plan.table.without plan.headIds) := rfl
  rw [hsettle, hempty, Record.rewrite_nil]

theorem newId?_eq {r : Resolution} {line : Text} {record : Record}
    (hkept : (.base r, line) ∈ plan.kept lines) (hon : Record.on? line = some record) :
    (Origin.base r).newId?.getD record.id = plan.finalId record.id := by
  have hr := (ResolutionPlan.stays hkept).resolution r rfl
  have hold := h.oldId_eq hkept hon
  rw [← hold, h.settles.finalId_oldId hnodup hr]
  simp only [Origin.newId?]
  cases hremap : r.isRemap with
  | true => rfl
  | false => exact (h.settles.assigned.newId_eq hr hremap).symm

end

end Resolves

/-- References in a resolved file mean what they meant on their side. The final ids of records on base
sides are distinct; edges and texts there lead from an id of the base sides to its final id and
otherwise stay, and edges and texts on head sides stay. -/
theorem references_preserved (h : Resolves source lines regions records plan final)
    (hsource : source.Nonempty) (hnodup : (regions.flatMap Region.baseIds).Nodup) :
    (∀ r ∈ plan.onSide .base, plan.finalId r.oldId = r.newId) ∧
      (∀ x ∈ regions.flatMap Region.baseIds, ∀ y ∈ regions.flatMap Region.baseIds,
        plan.finalId x = plan.finalId y → x = y) ∧
      final.output = (plan.kept lines).map (fun p => p.1.emit plan p.2) ∧
      ((recordsKept (plan.kept lines)).filter (·.1.isHead)).map Prod.snd =
        regions.flatMap Region.head ∧
      (recordsKept (plan.kept lines)).filterMap (fun p => p.1.resolution?.map (·, p.2)) =
        (plan.onSide .base).zip (regions.flatMap Region.base) ∧
      ∀ p ∈ plan.kept lines, ∀ r, Record.on? p.2 = some r →
        (p.1.isHead = true → ∃ r' : Record, r'.StandsOn (p.1.emit plan p.2) ∧
          r'.edges.map Edge.target = r.edges.map Edge.target ∧ ∀ q, r'.prose q = r.prose q) ∧
        (p.1.resolution?.isSome = true → ∃ r' : Record, r'.StandsOn (p.1.emit plan p.2) ∧
          r'.edges.map Edge.target = (r.edges.map Edge.target).map (fun x =>
            if x ∈ regions.flatMap Region.baseIds then plan.finalId x else x) ∧
          r'.edges.map (Json.field? "issue_id" ·.raw) = r.edges.map (fun e =>
            if e.issueId = some r.id then some (.str (plan.finalId r.id))
            else Json.field? "issue_id" e.raw) ∧
          ((∀ x ∈ regions.flatMap Region.baseIds, ∀ c ∈ x, c.isGlue = true) →
            ∀ q, r'.prose q = (r.prose q).renameTokens fun run =>
              if run ∈ regions.flatMap Region.baseIds then plan.finalId run else run)) := by
  refine ⟨fun r hr => h.settles.finalId_oldId hnodup hr,
    fun x hx y hy heq => h.finalId_injective hnodup hx hy heq, h.output_eq, h.heads_kept,
    h.bases_kept, ?_⟩
  intro p hp r hon
  obtain ⟨r', hstands, halike⟩ := Origin.standsOn_emit (h.proper hsource hp) hon
  obtain ⟨origin, line⟩ := p
  cases origin with
  | outside => exact ⟨nofun, nofun⟩
  | unclosed => exact ⟨nofun, nofun⟩
  | head =>
      rw [h.settle_head hnodup] at halike
      exact ⟨fun _ => ⟨r', hstands, halike.targets, halike.prose⟩, nofun⟩
  | base resolution =>
      refine ⟨nofun, fun _ => ⟨r', hstands, ?_, ?_, ?_⟩⟩
      · rw [halike.targets, Origin.targets_settle]
        exact List.map_congr_left fun x _ => h.find?_table_eq hnodup x
      · rw [halike.issueIds, Origin.issueIds_settle, h.newId?_eq hnodup hp hon]
      · intro hglue q
        have hids : ∀ x ∈ plan.table.ids, x ≠ [] ∧ ∀ c ∈ x, c.isGlue = true := by
          intro x hx
          have hbase := h.mem_of_table hx
          exact ⟨h.baseId_ne_nil hbase, hglue x hbase⟩
        rw [halike.prose, Origin.prose_settle]
        refine (RemapTable.rewriteText_eq_renameTokens hids _).trans ?_
        congr 1
        funext run
        exact h.find?_table_eq hnodup run

theorem references_preserved_collidingLines : ∃ regions records plan final,
    Resolves countingSource collidingLines regions records plan final ∧
      countingSource.Nonempty ∧ (regions.flatMap Region.baseIds).Nodup ∧
      (∀ x ∈ regions.flatMap Region.baseIds, ∀ c ∈ x, c.isGlue = true) ∧
      ∀ x ∈ regions.flatMap Region.baseIds, ∀ y ∈ regions.flatMap Region.baseIds,
        plan.finalId x = plan.finalId y → x = y := by
  obtain ⟨regions, records, plan, final, h, _, _, hbases⟩ := resolves_collidingLines
  have hnodup : (regions.flatMap Region.baseIds).Nodup := by
    rw [hbases]
    decide
  have hglue : ∀ x ∈ regions.flatMap Region.baseIds, ∀ c ∈ x, c.isGlue = true := by
    rw [hbases]
    decide
  obtain ⟨_, hinjective, _⟩ := references_preserved h countingSource_nonempty hnodup
  exact ⟨regions, records, plan, final, h, countingSource_nonempty, hnodup, hglue, hinjective⟩

end Merge

end IssueMerge
