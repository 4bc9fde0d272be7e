import IssueMerge.Proofs.Merge.Resolved

/-!
What becomes of records and ids when conflicts are resolved. No record is lost, duplicated or moved,
and every id stands as often in the new file as the old file and the plan say.
-/

namespace IssueMerge

namespace Merge

variable {source : IdSource} {lines : List Text} {regions : List Region} {records : List Record}
  {plan : ResolutionPlan} {final : Rebuild}

namespace Resolves

theorem read_subset (h : Resolves source lines regions records plan final) {some : List Text}
    (hsome : some ⊆ lines) : Record.ofLines some = .ok (some.filterMap Record.on?) :=
  Record.ofLines_eq_ok.mpr ⟨fun line hline => h.legible line (hsome hline), rfl⟩

/-- What a remap leads to is the id of no record, and no id of a head side. -/
theorem notMem_of_remap (h : Resolves source lines regions records plan final) {x : Text}
    (hx : x ∈ plan.remaps.map Resolution.newId) :
    x ∉ records.map Record.id ∧ x ∉ regions.flatMap Region.headIds := by
  rw [← h.settles.newIds_eq] at hx
  constructor
  · intro hmem
    exact h.settles.assigned.notMem_newIds (List.mem_append_left _ hmem) hx
  · intro hmem
    exact h.settles.assigned.notMem_newIds (List.mem_append_right _ hmem) hx

theorem count_newId (h : Resolves source lines regions records plan final) (x : Text) :
    ((plan.onSide .base).map Resolution.newId).count x =
      (if x ∈ regions.flatMap Region.baseIds ∧ x ∉ regions.flatMap Region.headIds then 1 else 0) +
        if x ∈ plan.remaps.map Resolution.newId then 1 else 0 := by
  rw [← h.settles.newIds_eq]
  exact h.settles.assigned.count_newId
    (fun _ hid => List.mem_append_left _ (h.baseIds_subset hid)) x

end Resolves

/-- Resolving conflicts loses, duplicates and moves no record. The records of the new file are those
of the old one without the text of ancestors, one for one: each has the same title, unknown fields
and relations, and the same id unless it stands on a base side and its resolution is a remap. On every
line that is emitted for a conflict there is a record. -/
theorem records_preserved (h : Resolves source lines regions records plan final)
    (hsource : source.Nonempty) (hdecimal : ∀ r ∈ records, (Json.obj r.raw).hasDecimal = false) :
    Record.ofLines (Layout.withoutAncestors lines) =
        .ok ((recordsKept (plan.kept lines)).map Prod.snd) ∧
      ((recordsKept (plan.kept lines)).filter (·.1.isHead)).map Prod.snd =
        regions.flatMap Region.head ∧
      (recordsKept (plan.kept lines)).filterMap (fun p => p.1.resolution?.map (·, p.2)) =
        (plan.onSide .base).zip (regions.flatMap Region.base) ∧
      (∃ after, Record.ofLines final.output = .ok after ∧
        List.Forall₂ (fun p r =>
          r.title = p.2.title ∧
          (∀ name ∉ Record.knownNames, Json.field? name r.raw = Json.field? name p.2.raw) ∧
          r.edges.map Edge.relation = p.2.edges.map Edge.relation ∧
          r.id = p.1.newId?.getD p.2.id) (recordsKept (plan.kept lines)) after) ∧
      final.output = (plan.kept lines).map (fun p => p.1.emit plan p.2) ∧
      ∀ p ∈ plan.kept lines, p.1.isHead = true ∨ p.1.resolution?.isSome = true →
        ∃ r, Record.ofLine? (p.1.emit plan p.2) = .ok (some r) := by
  refine ⟨?_, h.heads_kept, h.bases_kept, ?_, h.output_eq, ?_⟩
  · rw [h.read_subset (Layout.withoutAncestors_subset lines)]
    exact congrArg Except.ok
      (Layout.snd_recordsKept h.map_oldId (Layout.marked_ofLines lines)).symm
  · obtain ⟨after, hafter, hforall⟩ := h.read_output hsource hdecimal
    refine ⟨after, hafter, hforall.imp ?_⟩
    intro p r halike
    obtain ⟨htitle, hraw, hrelations⟩ := p.1.content_settle plan p.2
    refine ⟨halike.title.trans htitle, ?_, halike.relations.trans hrelations,
      halike.id.trans (p.1.id_settle plan p.2)⟩
    intro name hname
    rw [halike.unknown name hname, hraw]
  · intro p hp hconflict
    obtain ⟨r, hon⟩ := Option.isSome_iff_exists.mp ((ResolutionPlan.stays hp).on? hconflict)
    obtain ⟨r', hr', _⟩ := Origin.on?_emit (h.proper hsource hp) hon (h.sound hdecimal hp hon)
    exact ⟨r', Record.on?_eq_some.mp hr'⟩

theorem records_preserved_collidingLines : ∃ regions records plan final,
    Resolves countingSource collidingLines regions records plan final ∧
      countingSource.Nonempty ∧ (∀ r ∈ records, (Json.obj r.raw).hasDecimal = false) ∧
      ∃ before after, Record.ofLines (Layout.withoutAncestors collidingLines) = .ok before ∧
        Record.ofLines final.output = .ok after ∧ after.length = before.length := by
  obtain ⟨regions, records, plan, final, h, hdecimal, _⟩ := resolves_collidingLines
  obtain ⟨hbefore, _, _, ⟨after, hafter, hforall⟩, _⟩ :=
    records_preserved h countingSource_nonempty hdecimal
  refine ⟨regions, records, plan, final, h, countingSource_nonempty, hdecimal, _, after, hbefore,
    hafter, ?_⟩
  rw [List.length_map]
  exact hforall.length_eq.symm

/-- The ids of a resolved file, counted. An id stands as often as it does outside conflicts and on
head sides, once more if only base sides have it, and once more if a remap leads to it. So if the
versions on both sides had distinct ids, the resolved file has. -/
theorem ids_accounted (h : Resolves source lines regions records plan final)
    (hsource : source.Nonempty) (hdecimal : ∀ r ∈ records, (Json.obj r.raw).hasDecimal = false) :
    ∃ outside after, Record.ofLines (Layout.outside lines) = .ok outside ∧
      Record.ofLines final.output = .ok after ∧
      (∀ x, (after.map Record.id).count x =
        (outside.map Record.id).count x + (regions.flatMap Region.headIds).count x +
          (if x ∈ regions.flatMap Region.baseIds ∧ x ∉ regions.flatMap Region.headIds then 1
            else 0) +
            if x ∈ plan.remaps.map Resolution.newId then 1 else 0) ∧
      ((outside.map Record.id ++ regions.flatMap Region.headIds).Nodup →
        (outside.map Record.id ++ regions.flatMap Region.baseIds).Nodup →
          (after.map Record.id).Nodup) := by
  obtain ⟨after, hafter, hforall⟩ := h.read_output hsource hdecimal
  have hids : after.map Record.id =
      (recordsKept (plan.kept lines)).map fun p => p.1.newId?.getD p.2.id := by
    have heq := hforall.imp fun p r halike => (halike.id.trans (p.1.id_settle plan p.2)).symm
    exact (List.forall₂_eq_eq_eq ▸ List.forall₂_map_right_iff.mpr
      (List.forall₂_map_left_iff.mpr heq)).symm
  have hcount : ∀ x, (after.map Record.id).count x =
      (((Layout.outside lines).filterMap Record.on?).map Record.id).count x +
        (regions.flatMap Region.headIds).count x +
          (if x ∈ regions.flatMap Region.baseIds ∧ x ∉ regions.flatMap Region.headIds then 1
            else 0) +
            if x ∈ plan.remaps.map Resolution.newId then 1 else 0 := by
    intro x
    have hkeep := fun r (hr : r ∈ plan.onSide .base) => h.settles.assigned.newId_eq hr
    rw [hids, h.regions_eq, ResolutionPlan.kept, Layout.count_recordsKept h.map_oldId hkeep 1,
      h.count_newId, ← h.regions_eq, Nat.add_assoc, Nat.add_assoc, Nat.add_assoc]
    rfl
  refine ⟨_, after, h.read_subset (Layout.outside_subset lines), hafter, hcount, ?_⟩
  intro hours htheirs
  refine List.nodup_iff_count.mpr fun x => ?_
  have hours := List.nodup_iff_count.mp hours x
  have htheirs := List.nodup_iff_count.mp htheirs x
  rw [List.count_append] at hours htheirs
  rw [hcount x]
  by_cases hremap : x ∈ plan.remaps.map Resolution.newId
  · obtain ⟨hrecords, hheads⟩ := h.notMem_of_remap hremap
    have houtside : x ∉ ((Layout.outside lines).filterMap Record.on?).map Record.id := by
      intro hmem
      rw [h.records_eq] at hrecords
      exact hrecords
        (List.map_subset _ (List.filterMap_subset _ (Layout.outside_subset lines)) hmem)
    have hbase : x ∉ regions.flatMap Region.baseIds := fun hmem => hrecords (h.baseIds_subset hmem)
    have hzero := List.count_eq_zero.mpr houtside
    have hzero' := List.count_eq_zero.mpr hheads
    rw [if_pos hremap, if_neg fun hmem => hbase hmem.1]
    omega
  · rw [if_neg hremap]
    by_cases hbase : x ∈ regions.flatMap Region.baseIds ∧ x ∉ regions.flatMap Region.headIds
    · have hone := List.count_pos_iff.mpr hbase.1
      have hzero := List.count_eq_zero.mpr hbase.2
      rw [if_pos hbase]
      omega
    · rw [if_neg hbase]
      omega

theorem ids_accounted_collidingLines : ∃ regions records plan final after,
    Resolves countingSource collidingLines regions records plan final ∧
      countingSource.Nonempty ∧ (∀ r ∈ records, (Json.obj r.raw).hasDecimal = false) ∧
      Record.ofLines final.output = .ok after ∧ (after.map Record.id).Nodup := by
  have houtside : (Record.ofLines (Layout.outside collidingLines)).map (·.map Record.id) =
      .ok ["bd-3"] := by decide +kernel
  obtain ⟨regions, records, plan, final, h, hdecimal, hheads, hbases⟩ := resolves_collidingLines
  obtain ⟨outside, after, hread, hafter, _, hnodup⟩ :=
    ids_accounted h countingSource_nonempty hdecimal
  rw [hread] at houtside
  have hids : outside.map Record.id = ["bd-3"] := Except.ok.inj houtside
  rw [hids, hheads, hbases] at hnodup
  exact ⟨regions, records, plan, final, after, h, countingSource_nonempty, hdecimal, hafter,
    hnodup (by decide) (by decide)⟩

end Merge

end IssueMerge
