import IssueMerge.Proofs.Merge.Records
import IssueMerge.Proofs.Merge.References
import IssueMerge.Proofs.Resolution.Policy

/-!
No reference dangles in a resolved file. An id is taken from a record only when another record of a
conflict has it, so every id stays in the file, and the table leads only to ids that records get.
-/

namespace IssueMerge

theorem forall₂_of_map_eq {α β γ : Type} {as : List α} {bs : List β} {f : α → γ} {g : β → γ}
    (h : bs.map g = as.map f) : List.Forall₂ (fun a b => g b = f a) as bs := by
  have heq : List.Forall₂ (· = ·) (as.map f) (bs.map g) := by
    rw [List.forall₂_eq_eq_eq]
    exact h.symm
  refine (List.forall₂_map_right_iff.mp (List.forall₂_map_left_iff.mp heq)).imp ?_
  exact fun _ _ hab => hab.symm

theorem Origin.table_subset (plan : ResolutionPlan) (origin : Origin) :
    origin.table plan ⊆ plan.table := by
  cases origin with
  | outside | base _ => exact List.Subset.refl _
  | unclosed => exact List.nil_subset _
  | head => exact List.filter_sublist.subset

/-- The ids of the records that stay, each as it is emitted. -/
def ResolutionPlan.idsKept (plan : ResolutionPlan) (lines : List Text) : List Text :=
  (recordsKept (plan.kept lines)).map fun p => p.1.newId?.getD p.2.id

namespace Merge

variable {source : IdSource} {lines : List Text} {regions : List Region} {records : List Record}
  {plan : ResolutionPlan} {final : Rebuild}

namespace Resolves

section

variable (h : Resolves source lines regions records plan final)

include h

theorem newId_mem_idsKept {r : Resolution} (hr : r ∈ plan.onSide .base) :
    r.newId ∈ plan.idsKept lines := by
  have hmap : (plan.onSide .base).map Resolution.oldId =
      (regions.flatMap Region.base).map Record.id := by
    rw [h.settles.map_oldId, List.map_flatMap]
    rfl
  have hnew := newId_zip hmap fun _ hr => h.settles.assigned.newId_eq hr
  have hmem : r.newId ∈ (plan.onSide .base).map Resolution.newId := List.mem_map_of_mem hr
  rw [← hnew, ← h.bases_kept] at hmem
  obtain ⟨q, hq, hid⟩ := List.mem_map.mp hmem
  obtain ⟨⟨origin, record⟩, hkept, horigin⟩ := List.mem_filterMap.mp hq
  cases origin with
  | outside | unclosed | head => cases horigin
  | base resolution =>
      cases horigin
      exact List.mem_map.mpr ⟨_, hkept, hid⟩

theorem headId_mem_idsKept {x : Text} (hx : x ∈ regions.flatMap Region.headIds) :
    x ∈ plan.idsKept lines := by
  rw [Region.flatMap_headIds, ← h.heads_kept] at hx
  obtain ⟨r, hr, rfl⟩ := List.mem_map.mp hx
  obtain ⟨⟨origin, record⟩, hkept, rfl⟩ := List.mem_map.mp hr
  obtain ⟨hmem, hhead⟩ := List.mem_filter.mp hkept
  cases origin with
  | head => exact List.mem_map.mpr ⟨_, hmem, rfl⟩
  | outside | unclosed | base _ => cases hhead

/-- The id of a record that stays is the id of a record that is emitted. Where the record itself is
given another id, that is because of a record that has it. -/
theorem id_mem_idsKept {p : Origin × Record} (hp : p ∈ recordsKept (plan.kept lines)) :
    p.2.id ∈ plan.idsKept lines := by
  cases hnew : p.1.newId? with
  | none =>
      refine List.mem_map.mpr ⟨p, hp, ?_⟩
      rw [hnew]
      rfl
  | some newId =>
      obtain ⟨origin, record⟩ := p
      cases origin with
      | outside | unclosed | head => cases hnew
      | base r =>
          obtain ⟨⟨origin', line⟩, hkept, hon⟩ := List.mem_filterMap.mp hp
          obtain ⟨record', hon', heq⟩ := Option.map_eq_some_iff.mp hon
          cases heq
          have hr : r ∈ plan.onSide .base := (ResolutionPlan.stays hkept).resolution r rfl
          have hold : r.oldId = record.id := h.oldId_eq hkept hon'
          obtain ⟨front, back, hsplit⟩ := List.append_of_mem hr
          have hdecided := h.settles.assigned.decided hsplit
          split at hdecided
          · next hbefore =>
            rw [hold] at hbefore
            cases hbefore with
            | inl hhead => exact h.headId_mem_idsKept hhead
            | inr hfront =>
                obtain ⟨r', hr', hid⟩ := List.mem_map.mp hfront
                have hmem : r' ∈ plan.onSide .base := by
                  rw [hsplit]
                  exact List.mem_append_left _ hr'
                rw [← hid]
                exact h.newId_mem_idsKept hmem
          · simp only [Origin.newId?] at hnew
            rw [hdecided] at hnew
            cases hnew

theorem table_subset_idsKept {p : Text × Text} (hp : p ∈ plan.table) :
    p.2 ∈ plan.idsKept lines := by
  rw [h.settles.table] at hp
  cases RemapTable.mem_noteAll hp with
  | inl hp => exact absurd hp List.not_mem_nil
  | inr hfound =>
      obtain ⟨r, hr, _, rfl⟩ := hfound
      exact h.newId_mem_idsKept hr

/-- A reference to the id of a record that stays leads to a record that is emitted, wherever the
reference comes from. -/
theorem target_mem_idsKept (origin : Origin) {x : Text}
    (hx : x ∈ (recordsKept (plan.kept lines)).map (·.2.id)) :
    ((origin.table plan).find? x).getD x ∈ plan.idsKept lines := by
  have hsubset := origin.table_subset plan
  cases hfind : (origin.table plan).find? x with
  | none =>
      obtain ⟨p, hp, rfl⟩ := List.mem_map.mp hx
      exact h.id_mem_idsKept hp
  | some y =>
      exact h.table_subset_idsKept (hsubset (RemapTable.mem_of_find? hfind))

end

end Resolves

/-- No id is lost and no reference dangles when conflicts are resolved. Every id of a record that is
not in the text of ancestors is the id of a record of the new file; and an edge to such an id leads
to a record of the new file, whether it stands outside conflicts, on either side of one or in a
conflict that is not closed. -/
theorem no_reference_dangles (h : Resolves source lines regions records plan final)
    (hsource : source.Nonempty) (hdecimal : ∀ r ∈ records, (Json.obj r.raw).hasDecimal = false) :
    ∃ before after, Record.ofLines (Layout.withoutAncestors lines) = .ok before ∧
      Record.ofLines final.output = .ok after ∧
      before.map Record.id ⊆ after.map Record.id ∧
      List.Forall₂ (fun r r' => List.Forall₂ (fun e e' =>
        e.target ∈ before.map Record.id → e'.target ∈ after.map Record.id) r.edges r'.edges)
        before after := by
  obtain ⟨after, hafter, hforall⟩ := h.read_output hsource hdecimal
  have hbefore : Record.ofLines (Layout.withoutAncestors lines) =
      .ok ((recordsKept (plan.kept lines)).map Prod.snd) := by
    rw [h.read_subset (Layout.withoutAncestors_subset lines)]
    exact congrArg Except.ok
      (Layout.snd_recordsKept h.map_oldId (Layout.marked_ofLines lines)).symm
  have hids : after.map Record.id = plan.idsKept lines := by
    have heq := hforall.imp fun p r halike => (halike.id.trans (p.1.id_settle plan p.2)).symm
    exact (List.forall₂_eq_eq_eq ▸ List.forall₂_map_right_iff.mpr
      (List.forall₂_map_left_iff.mpr heq)).symm
  refine ⟨_, after, hbefore, hafter, ?_, ?_⟩
  · rw [hids, List.map_map]
    intro x hx
    obtain ⟨p, hp, rfl⟩ := List.mem_map.mp hx
    exact h.id_mem_idsKept hp
  · rw [hids, List.map_map]
    refine List.forall₂_map_left_iff.mpr (hforall.imp ?_)
    intro p r halike
    have htargets := halike.targets.trans (p.1.targets_settle plan p.2)
    rw [List.map_map] at htargets
    refine (forall₂_of_map_eq htargets).imp ?_
    intro e e' htarget hmem
    rw [htarget]
    exact h.target_mem_idsKept p.1 hmem

theorem no_reference_dangles_collidingLines : ∃ regions records plan final after,
    Resolves countingSource collidingLines regions records plan final ∧
      countingSource.Nonempty ∧ (∀ r ∈ records, (Json.obj r.raw).hasDecimal = false) ∧
      Record.ofLines final.output = .ok after ∧
      (["bd-1", "bd-2", "bd-3"] : List Text) ⊆ after.map Record.id := by
  have hids : (Record.ofLines (Layout.withoutAncestors collidingLines)).map (·.map Record.id) =
      .ok ["bd-1", "bd-1", "bd-2", "bd-3"] := by decide +kernel
  obtain ⟨regions, records, plan, final, h, hdecimal, _⟩ := resolves_collidingLines
  obtain ⟨before, after, hbefore, hafter, hsubset, _⟩ :=
    no_reference_dangles h countingSource_nonempty hdecimal
  rw [hbefore] at hids
  have hids' : before.map Record.id = (["bd-1", "bd-1", "bd-2", "bd-3"] : List Text) :=
    Except.ok.inj hids
  rw [hids'] at hsubset
  refine ⟨regions, records, plan, final, after, h, countingSource_nonempty, hdecimal, hafter, ?_⟩
  exact fun x hx => hsubset (List.mem_cons_of_mem _ hx)

end Merge

end IssueMerge
