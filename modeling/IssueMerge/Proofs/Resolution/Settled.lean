import IssueMerge.Proofs.Resolution.Assigned

/-!
What a plan says of the records in conflicts. The entries of the base side assign ids to its records,
the table leads from an id to what the first remap of it gives, and where no id occurs twice on the
base side, table and entries say the same.
-/

namespace IssueMerge

open Outcome

namespace RemapTable

theorem find?_append (front back : RemapTable) (x : Text) :
    find? (front ++ back) x = (find? front x).or (find? back x) := by
  simp only [find?, List.find?_append]
  cases List.find? (fun p => decide (p.1 = x)) front <;> rfl

theorem find?_note (table : RemapTable) (oldId newId x : Text) :
    find? (note table oldId newId) x =
      (find? table x).or (if oldId = x then some newId else none) := by
  simp only [note]
  split
  · next hsome =>
    by_cases heq : oldId = x
    · subst heq
      obtain ⟨newId', hfind⟩ := Option.isSome_iff_exists.mp hsome
      rw [hfind]
      rfl
    · rw [if_neg heq, Option.or_none]
  · rw [find?_append]
    congr 1
    by_cases heq : oldId = x <;> simp [find?, heq]

/-- The first remap of an id counts. -/
theorem find?_noteAll (table : RemapTable) (resolutions : List Resolution) (x : Text) :
    find? (noteAll table resolutions) x = (find? table x).or
      ((resolutions.find? fun r => r.isRemap && r.oldId = x).map Resolution.newId) := by
  induction resolutions generalizing table with
  | nil => exact (Option.or_none).symm
  | cons r rest ih =>
      simp only [noteAll, List.foldl_cons] at ih ⊢
      rw [ih, List.find?_cons]
      cases hremap : r.isRemap with
      | false => simp
      | true =>
          simp only [↓reduceIte, find?_note, Option.or_assoc, Bool.true_and]
          by_cases heq : r.oldId = x <;> simp [heq]

theorem mem_noteAll {table : RemapTable} {resolutions : List Resolution} {p : Text × Text}
    (h : p ∈ noteAll table resolutions) :
    p ∈ table ∨ ∃ r ∈ resolutions, r.isRemap = true ∧ p = (r.oldId, r.newId) := by
  induction resolutions generalizing table with
  | nil => exact .inl h
  | cons r rest ih =>
      cases ih h with
      | inl hp =>
          cases hremap : r.isRemap with
          | false =>
              simp only [hremap, Bool.false_eq_true, ↓reduceIte] at hp
              exact .inl hp
          | true =>
              simp only [hremap, ↓reduceIte, note] at hp
              split at hp
              · exact .inl hp
              · cases List.mem_append.mp hp with
                | inl hp => exact .inl hp
                | inr hp => exact .inr ⟨r, List.mem_cons_self, hremap, List.mem_singleton.mp hp⟩
      | inr hfound =>
          obtain ⟨r', hr', hp⟩ := hfound
          exact .inr ⟨r', List.mem_cons_of_mem r hr', hp⟩

end RemapTable

namespace ResolutionPlan

/-- The plan is one for some regions, made with ids from a source that avoid the reserved ones. -/
structure Settles (plan : ResolutionPlan) (source : IdSource) (regions : List Region)
    (reserved : List Text) : Prop where
  resolutions : plan.resolutions =
    (regions.flatMap Region.headIds).map (Resolution.keep .head · headReason) ++ plan.onSide .base
  assigned : Assigned source (reserved ++ regions.flatMap Region.headIds)
    (regions.flatMap Region.headIds) (regions.flatMap Region.baseIds) (plan.onSide .base)
  table : plan.table = RemapTable.noteAll [] (plan.onSide .base)
  mem_headIds : ∀ x, x ∈ plan.headIds ↔ x ∈ regions.flatMap Region.headIds
  remaps : plan.remaps = (plan.onSide .base).filter (·.isRemap)

theorem settles_of_resolve {regions : List Region} {source : IdSource} {reserved : List Text}
    {plan : ResolutionPlan} (h : (resolve regions source reserved).plan = .ok plan) :
    plan.Settles source regions reserved := by
  simp only [resolve] at h
  obtain ⟨⟨⟩, hrun, rfl⟩ := map_eq_ok.mp h
  obtain ⟨assigned, hassigned, hresolutions, htable⟩ :=
    Resolver.run_assigned (Prod.ext hrun rfl)
  let keeps := (regions.flatMap Region.headIds).map fun id => Resolution.keep .head id headReason
  have hheads : ∀ r ∈ keeps, r.side = .head ∧ r.isRemap = false := by
    intro r hr
    obtain ⟨id, _, rfl⟩ := List.mem_map.mp hr
    exact ⟨rfl, rfl⟩
  have hresolutions' := hresolutions.trans (show _ = keeps ++ assigned from rfl)
  have hside : (keeps ++ assigned).filter (·.side = .base) = assigned := by
    rw [List.filter_append, List.filter_eq_nil_iff.mpr, List.filter_eq_self.mpr, List.nil_append]
    · exact fun r hr => decide_eq_true (hassigned.side r hr)
    · intro r hr hbase
      rw [(hheads r hr).1] at hbase
      exact absurd hbase (by decide)
  have hremaps : (keeps ++ assigned).filter (·.isRemap) = assigned.filter (·.isRemap) := by
    rw [List.filter_append, List.filter_eq_nil_iff.mpr, List.nil_append]
    intro r hr hremap
    rw [(hheads r hr).2] at hremap
    cases hremap
  refine ⟨?_, ?_, ?_, fun x => List.mem_eraseDups, ?_⟩
  · simp only [onSide, hresolutions', hside]
    rfl
  · simp only [onSide, hresolutions', hside]
    exact hassigned
  · simp only [onSide, hresolutions', hside]
    exact htable
  · simp only [onSide, remaps, hresolutions', hside, hremaps]

/-- The id that records of the base side with this id get. Other ids stay. -/
def finalId (plan : ResolutionPlan) (id : Text) : Text :=
  (((plan.onSide .base).find? (·.oldId = id)).map Resolution.newId).getD id

namespace Settles

variable {plan : ResolutionPlan} {source : IdSource} {regions : List Region} {reserved : List Text}

theorem map_oldId (h : plan.Settles source regions reserved) :
    (plan.onSide .base).map Resolution.oldId = regions.flatMap Region.baseIds :=
  h.assigned.map_oldId

theorem table_ne_nil (h : plan.Settles source regions reserved) (hsource : source.Nonempty) :
    ∀ p ∈ plan.table, p.2 ≠ [] := by
  intro p hp
  rw [h.table] at hp
  cases RemapTable.mem_noteAll hp with
  | inl hp => exact absurd hp List.not_mem_nil
  | inr hfound =>
      obtain ⟨r, hr, hremap, rfl⟩ := hfound
      refine h.assigned.newIds_ne_nil hsource r.newId ?_
      exact List.mem_map_of_mem (List.mem_filter.mpr ⟨hr, hremap⟩)

theorem newIds_eq (h : plan.Settles source regions reserved) :
    newIds (plan.onSide .base) = plan.remaps.map Resolution.newId := by
  rw [h.remaps, newIds]

theorem finalId_of_notMem (h : plan.Settles source regions reserved) {id : Text}
    (hid : id ∉ regions.flatMap Region.baseIds) : plan.finalId id = id := by
  have hnone : (plan.onSide .base).find? (·.oldId = id) = none := by
    rw [List.find?_eq_none]
    intro r hr heq
    exact hid (h.map_oldId ▸ List.mem_map.mpr ⟨r, hr, of_decide_eq_true heq⟩)
  rw [finalId, hnone]
  rfl

end Settles

theorem find?_oldId {resolutions : List Resolution}
    (hnodup : (resolutions.map Resolution.oldId).Nodup) {r : Resolution} (hr : r ∈ resolutions) :
    resolutions.find? (·.oldId = r.oldId) = some r := by
  induction resolutions with
  | nil => exact absurd hr List.not_mem_nil
  | cons first rest ih =>
      obtain ⟨hfirst, hrest⟩ := List.nodup_cons.mp hnodup
      rw [List.find?_cons]
      cases List.mem_cons.mp hr with
      | inl heq =>
          subst heq
          rw [decide_eq_true rfl]
      | inr hr =>
          have hne : first.oldId ≠ r.oldId := fun heq => hfirst (heq ▸ List.mem_map_of_mem hr)
          rw [decide_eq_false hne]
          exact ih hrest hr

namespace Settles

variable {plan : ResolutionPlan} {source : IdSource} {regions : List Region} {reserved : List Text}
  (h : plan.Settles source regions reserved) (hnodup : (regions.flatMap Region.baseIds).Nodup)

include h hnodup

theorem finalId_oldId {r : Resolution} (hr : r ∈ plan.onSide .base) :
    plan.finalId r.oldId = r.newId := by
  rw [finalId, find?_oldId (h.map_oldId ▸ hnodup) hr]
  rfl

theorem map_finalId : (regions.flatMap Region.baseIds).map plan.finalId =
    (plan.onSide .base).map Resolution.newId := by
  rw [← h.map_oldId, List.map_map]
  exact List.map_congr_left fun r hr => h.finalId_oldId hnodup hr

theorem find?_table (x : Text) : (plan.table.find? x).getD x = plan.finalId x := by
  have hempty : RemapTable.find? [] x = none := rfl
  rw [h.table, RemapTable.find?_noteAll, hempty, Option.none_or]
  cases hfind : (plan.onSide .base).find? fun r => r.isRemap && r.oldId = x with
  | some r =>
      have hr := List.find?_some hfind
      simp only [Bool.and_eq_true, decide_eq_true_eq] at hr
      rw [← hr.2, h.finalId_oldId hnodup (List.mem_of_find?_eq_some hfind)]
      rfl
  | none =>
      by_cases hx : x ∈ regions.flatMap Region.baseIds
      · rw [← h.map_oldId] at hx
        obtain ⟨r, hr, rfl⟩ := List.mem_map.mp hx
        have hkeep := List.find?_eq_none.mp hfind r hr
        simp only [decide_true, Bool.and_true, Bool.not_eq_true] at hkeep
        rw [h.finalId_oldId hnodup hr, h.assigned.newId_eq hr hkeep]
        rfl
      · rw [h.finalId_of_notMem hx]
        rfl

/-- No id of the head side is in the way of what a reference on that side means. -/
theorem table_without_headIds (hreserved : regions.flatMap Region.baseIds ⊆ reserved) :
    plan.table.without plan.headIds = [] := by
  rw [RemapTable.without, List.filter_eq_nil_iff]
  intro p hp hfree
  rw [h.table] at hp
  cases RemapTable.mem_noteAll hp with
  | inl hp => exact List.not_mem_nil hp
  | inr hfound =>
      obtain ⟨r, hr, hremap, rfl⟩ := hfound
      have hclaimed := h.assigned.mem_claimed
        (fun x hx => List.mem_append_left _ (hreserved hx)) hnodup hr hremap
      exact of_decide_eq_true hfree ((h.mem_headIds r.oldId).mpr hclaimed)

end Settles

end ResolutionPlan

end IssueMerge
