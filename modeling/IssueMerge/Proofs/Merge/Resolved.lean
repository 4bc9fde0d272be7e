import IssueMerge.Merge
import IssueMerge.Proofs.Merge.Rebuilt

/-!
Files whose conflicts were resolved: the regions, the plan for them and the rebuilt file. Scan, plan
and rebuild are brought together here, so that what holds of a resolved file is read off its layout.
-/

namespace IssueMerge

open Outcome

theorem Region.flatMap_headIds (regions : List Region) :
    regions.flatMap Region.headIds = (regions.flatMap Region.head).map Record.id := by
  rw [List.map_flatMap]
  rfl

namespace Merge

/-- The conflicts in some lines are resolved with ids from a source, and all ids in the file are
reserved. -/
structure Resolves (source : IdSource) (lines : List Text) (regions : List Region)
    (records : List Record) (plan : ResolutionPlan) (final : Rebuild) : Prop where
  scanned : Region.ofLines lines = .ok regions
  read : Record.ofLines lines = .ok records
  planned : (ResolutionPlan.resolve regions source (records.map Record.id)).plan = .ok plan
  rebuilt : plan.rebuild lines = .ok final

variable {source : IdSource} {lines : List Text} {regions : List Region} {records : List Record}
  {plan : ResolutionPlan} {final : Rebuild}

/-- A merge that succeeds found no conflicts, or it resolved them. -/
theorem ofLines_eq_ok {asked : Option IdSource} {stem : Option Text} {merge : Merge}
    (h : (ofLines lines asked stem).result = .ok merge) :
    (Region.ofLines lines = .ok [] ∧ merge = { lines }) ∨
      ∃ records final,
        Resolves (asked.getD { ids := records.map Record.id, stem : NamespaceScan }.source) lines
          merge.regions records merge.plan final ∧ merge.lines = final.output := by
  simp only [ofLines] at h
  split at h
  · cases h
  · next hregions =>
    cases h
    exact .inl ⟨hregions, rfl⟩
  · next regions _ hregions =>
    split at h
    · cases h
    · next records hrecords =>
      simp only [ofRegions] at h
      obtain ⟨plan, hplan, h⟩ := bind_eq_ok.mp h
      obtain ⟨final, hfinal, h⟩ := bind_eq_ok.mp h
      cases h
      exact .inr ⟨records, final,
        ⟨hregions, hrecords, mapError_eq_ok.mp hplan, mapError_eq_ok.mp hfinal⟩, rfl⟩

theorem resolves_of_ofLines {asked : Option IdSource} {stem : Option Text} {merge : Merge}
    (h : (ofLines lines asked stem).result = .ok merge) (hconflicts : merge.regions ≠ []) :
    ∃ records final,
      Resolves (asked.getD { ids := records.map Record.id, stem : NamespaceScan }.source) lines
        merge.regions records merge.plan final ∧ merge.lines = final.output :=
  (ofLines_eq_ok h).resolve_left fun hnone => hconflicts (congrArg regions hnone.2)

theorem resolves_of_hasConflicts {asked : Option IdSource} {stem : Option Text}
    (h : (ofLines lines asked stem).result.map hasConflicts = .ok true) :
    ∃ merge records final, (ofLines lines asked stem).result = .ok merge ∧
      Resolves (asked.getD { ids := records.map Record.id, stem : NamespaceScan }.source) lines
        merge.regions records merge.plan final := by
  obtain ⟨merge, hmerge, hconflicts⟩ := map_eq_ok.mp h
  have hfound : merge.regions ≠ [] := by
    intro hnone
    rw [hasConflicts, hnone] at hconflicts
    cases hconflicts
  obtain ⟨records, final, hresolves, _⟩ := resolves_of_ofLines hmerge hfound
  exact ⟨merge, records, final, hmerge, hresolves⟩

theorem regions_of_ofLines {asked : Option IdSource} {stem : Option Text} {merge : Merge}
    (h : (ofLines lines asked stem).result = .ok merge) :
    Region.ofLines lines = .ok merge.regions := by
  obtain ⟨hregions, hnone⟩ | ⟨_, _, hresolves, _⟩ := ofLines_eq_ok h
  · rw [hregions, hnone]
  · exact hresolves.scanned

theorem countingSource_nonempty : countingSource.Nonempty := by
  intro k id h
  cases h
  exact List.append_ne_nil_of_left_ne_nil (by decide) _

theorem resolves_collidingLines : ∃ regions records plan final,
    Resolves countingSource collidingLines regions records plan final ∧
      (∀ r ∈ records, (Json.obj r.raw).hasDecimal = false) ∧
      regions.flatMap Region.headIds = ["bd-1"] ∧
      regions.flatMap Region.baseIds = ["bd-1", "bd-2"] := by
  have hmerge : (ofLines collidingLines (some countingSource) none).result.map hasConflicts =
      .ok true := by decide +kernel
  have hheads : (Region.ofLines collidingLines).map (·.flatMap Region.headIds) =
      .ok ["bd-1"] := by decide +kernel
  have hbases : (Region.ofLines collidingLines).map (·.flatMap Region.baseIds) =
      .ok ["bd-1", "bd-2"] := by decide +kernel
  have hdecimal : (Record.ofLines collidingLines).map
      (·.all fun r => !(Json.obj r.raw).hasDecimal) = .ok true := by decide +kernel
  obtain ⟨merge, records, final, _, h⟩ := resolves_of_hasConflicts hmerge
  rw [h.scanned] at hheads hbases
  rw [h.read] at hdecimal
  refine ⟨merge.regions, records, merge.plan, final, h, ?_, Except.ok.inj hheads,
    Except.ok.inj hbases⟩
  intro r hr
  have hr' := List.all_eq_true.mp (Except.ok.inj hdecimal) r hr
  exact Bool.not_eq_true' _ |>.mp hr'

namespace Resolves

variable (h : Resolves source lines regions records plan final)

include h

theorem legible : ∀ line ∈ lines, Legible line :=
  (Record.ofLines_eq_ok.mp h.read).1

theorem records_eq : records = lines.filterMap Record.on? :=
  (Record.ofLines_eq_ok.mp h.read).2

theorem rebuilds : Rebuilds source (records.map Record.id) lines regions plan final :=
  ⟨h.scanned, h.planned, h.rebuilt⟩

theorem regions_eq : regions = Layout.regionsFrom 1 (Layout.ofLines lines) :=
  h.rebuilds.regions_eq

theorem settles : plan.Settles source regions (records.map Record.id) :=
  h.rebuilds.settles

theorem map_oldId : (plan.onSide .base).map Resolution.oldId = (Layout.ofLines lines).baseIds :=
  h.rebuilds.map_oldId

theorem output_eq : final.output = (plan.kept lines).map fun p => p.1.emit plan p.2 :=
  h.rebuilds.output_eq

theorem heads_kept : ((recordsKept (plan.kept lines)).filter (·.1.isHead)).map Prod.snd =
    regions.flatMap Region.head :=
  h.rebuilds.heads_kept

theorem bases_kept : (recordsKept (plan.kept lines)).filterMap
    (fun p => p.1.resolution?.map (·, p.2)) =
      (plan.onSide .base).zip (regions.flatMap Region.base) :=
  h.rebuilds.bases_kept

theorem proper (hsource : source.Nonempty) {p : Origin × Text} (hp : p ∈ plan.kept lines) :
    p.1.Proper plan := by
  have htable := h.settles.table_ne_nil hsource
  have hresolution := (ResolutionPlan.stays hp).resolution
  obtain ⟨origin, line⟩ := p
  cases origin with
  | outside => exact ⟨htable, fun _ hnew => nomatch hnew⟩
  | unclosed => exact ⟨fun _ hp => absurd hp List.not_mem_nil, fun _ hnew => nomatch hnew⟩
  | head => exact ⟨fun p hp => htable p (List.mem_filter.mp hp).1, fun _ hnew => nomatch hnew⟩
  | base r =>
      refine ⟨htable, ?_⟩
      intro newId hnew
      simp only [Origin.newId?] at hnew
      split at hnew
      · next hremap =>
        cases hnew
        have hr : r ∈ plan.onSide .base := hresolution r rfl
        exact h.settles.assigned.newIds_ne_nil hsource _
          (List.mem_map_of_mem (List.mem_filter.mpr ⟨hr, hremap⟩))
      · cases hnew

theorem mem_records_of_kept {p : Origin × Record} (hp : p ∈ recordsKept (plan.kept lines)) :
    p.2 ∈ records ∧ ∀ r ∈ p.1.resolution?, r ∈ plan.onSide .base := by
  obtain ⟨⟨origin, line⟩, hkept, hon⟩ := List.mem_filterMap.mp hp
  obtain ⟨r, hr, rfl⟩ := Option.map_eq_some_iff.mp hon
  obtain ⟨hmem, hresolution, _⟩ := ResolutionPlan.stays hkept
  refine ⟨?_, hresolution⟩
  rw [h.records_eq]
  exact List.mem_filterMap.mpr ⟨line, hmem, hr⟩

theorem headIds_subset : regions.flatMap Region.headIds ⊆ records.map Record.id := by
  intro x hx
  rw [Region.flatMap_headIds, ← h.heads_kept] at hx
  obtain ⟨r, hr, rfl⟩ := List.mem_map.mp hx
  obtain ⟨p, hp, rfl⟩ := List.mem_map.mp hr
  exact List.mem_map_of_mem (h.mem_records_of_kept (List.mem_filter.mp hp).1).1

theorem baseIds_subset : regions.flatMap Region.baseIds ⊆ records.map Record.id := by
  have hsubset := (Layout.ofLines lines).baseIds_subset
  rw [Layout.flatMap_lines] at hsubset
  rw [h.regions_eq, Layout.flatMap_baseIds_regionsFrom, h.records_eq]
  exact hsubset

/-- Without a finite floating-point number, the records that stay read back. -/
theorem sound (hdecimal : ∀ r ∈ records, (Json.obj r.raw).hasDecimal = false)
    {p : Origin × Text} (hp : p ∈ plan.kept lines) {r : Record} (hr : Record.on? p.2 = some r) :
    r.Sound := by
  have hmem : r ∈ records := by
    rw [h.records_eq]
    exact List.mem_filterMap.mpr ⟨p.2, (ResolutionPlan.stays hp).mem, hr⟩
  exact Record.sound_of_ofLine? (Record.on?_eq_some.mp hr) (hdecimal r hmem)

/-- The lines of the new file can be read, and the records on them are those that stay, each as it is
found again where it is emitted. -/
theorem read_emitted {R : Origin × Record → Record → Prop}
    (hemit : ∀ p ∈ plan.kept lines, ∀ r, Record.on? p.2 = some r →
      ∃ r', Record.on? (p.1.emit plan p.2) = some r' ∧ R (p.1, r) r') :
    ∃ after, Record.ofLines final.output = .ok after ∧
      List.Forall₂ R (recordsKept (plan.kept lines)) after := by
  have hforall := forall₂_recordsKept hemit
  rw [← h.output_eq] at hforall
  refine ⟨_, Record.ofLines_eq_ok.mpr ⟨?_, rfl⟩, hforall⟩
  intro line hline
  rw [h.output_eq] at hline
  obtain ⟨p, hp, rfl⟩ := List.mem_map.mp hline
  cases hon : Record.on? p.2 with
  | none =>
      rw [Origin.emit_of_none plan p.1 hon]
      exact h.legible p.2 (ResolutionPlan.stays hp).mem
  | some r =>
      obtain ⟨r', hr', _⟩ := hemit p hp r hon
      apply legible_iff.mpr
      rw [hr']
      exact Record.on?_eq_some.mp hr'

theorem read_output (hsource : source.Nonempty)
    (hdecimal : ∀ r ∈ records, (Json.obj r.raw).hasDecimal = false) :
    ∃ after, Record.ofLines final.output = .ok after ∧
      List.Forall₂ (fun p r => (p.1.settle plan p.2).Alike r) (recordsKept (plan.kept lines))
        after :=
  h.read_emitted fun _ hp _ hr => Origin.on?_emit (h.proper hsource hp) hr (h.sound hdecimal hp hr)

end Resolves

end Merge

end IssueMerge
