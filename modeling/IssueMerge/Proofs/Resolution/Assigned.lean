import IssueMerge.Proofs.Resolution.Fresh
import IssueMerge.Resolution.Resolver

/-!
How ids are assigned to the base side. A record keeps its id unless a record before it has it, and
then gets one that nothing has. With all ids of the base side reserved from the start, no two of the
assigned ids are the same.
-/

namespace IssueMerge

/-- Ids are assigned by these resolutions when some are `taken`, so that none of them is given out
anew, and some are `claimed`, so that no other record keeps them. -/
inductive Assigned (source : IdSource) :
    (taken claimed ids : List Text) → List Resolution → Prop where
  | nil {taken claimed : List Text} : Assigned source taken claimed [] []
  | keep {taken claimed ids : List Text} {id : Text} {rest : List Resolution}
      (free : id ∉ claimed) (behind : Assigned source (id :: taken) (id :: claimed) ids rest) :
      Assigned source taken claimed (id :: ids) (.keep .base id freeReason :: rest)
  | remap {taken claimed ids : List Text} {id newId : Text} {rest : List Resolution}
      (collides : id ∈ claimed) (given : source.Gives taken newId)
      (behind : Assigned source (newId :: taken) (newId :: claimed) ids rest) :
      Assigned source taken claimed (id :: ids) (.remap id newId collisionReason :: rest)

def newIds (resolutions : List Resolution) : List Text :=
  (resolutions.filter (·.isRemap)).map Resolution.newId

/-- A table with the remaps of some resolutions noted. -/
def RemapTable.noteAll (table : RemapTable) (resolutions : List Resolution) : RemapTable :=
  resolutions.foldl (fun table r => if r.isRemap then table.note r.oldId r.newId else table) table

namespace Resolver

theorem run_cons (source : IdSource) (s : Resolver) (id : Text) (ids : List Text) :
    s.run source (id :: ids) =
      if id ∈ s.claimed then
        match s.allocator.next source with
        | (.ok newId, allocator) => (s.remap id newId allocator).run source ids
        | (.error e, allocator) => (.error e, { s with allocator })
      else (s.keep id).run source ids :=
  rfl

/-- A run of the resolver assigns ids, in the order of the records, and notes all remaps. -/
theorem run_assigned {source : IdSource} {ids : List Text} {s s' : Resolver}
    (h : s.run source ids = (.ok (), s')) :
    ∃ assigned, Assigned source s.allocator.reserved s.claimed ids assigned ∧
      s'.resolutions = s.resolutions ++ assigned ∧ s'.table = s.table.noteAll assigned := by
  induction ids generalizing s with
  | nil =>
      cases (Prod.mk.inj h).2
      exact ⟨[], .nil, (List.append_nil _).symm, rfl⟩
  | cons id ids ih =>
      rw [run_cons] at h
      split at h
      · next hclaimed =>
        split at h
        · next newId allocator hnext =>
          obtain ⟨hgiven, hreserved⟩ := Allocator.next_gives hnext
          obtain ⟨assigned, hbehind, hresolutions, htable⟩ := ih h
          refine ⟨.remap id newId collisionReason :: assigned, .remap hclaimed hgiven ?_, ?_, ?_⟩
          · rw [← hreserved]
            exact hbehind
          · rw [hresolutions, remap, List.append_assoc, List.singleton_append]
          · rw [htable]
            rfl
        · cases (Prod.mk.inj h).1
      · next hfree =>
        obtain ⟨assigned, hbehind, hresolutions, htable⟩ := ih h
        refine ⟨.keep .base id freeReason :: assigned, .keep hfree hbehind, ?_, ?_⟩
        · rw [hresolutions, keep, List.append_assoc, List.singleton_append]
        · rw [htable]
          rfl

end Resolver

namespace Assigned

variable {source : IdSource} {taken claimed ids : List Text} {assigned : List Resolution}

theorem map_oldId (h : Assigned source taken claimed ids assigned) :
    assigned.map Resolution.oldId = ids := by
  induction h with
  | nil => rfl
  | keep _ _ ih | remap _ _ _ ih => exact congrArg _ ih

theorem side (h : Assigned source taken claimed ids assigned) : ∀ r ∈ assigned, r.side = .base := by
  induction h with
  | nil => exact fun _ hr => absurd hr List.not_mem_nil
  | keep _ _ ih | remap _ _ _ ih => exact List.forall_mem_cons.mpr ⟨rfl, ih⟩

theorem newId_eq (h : Assigned source taken claimed ids assigned) {r : Resolution}
    (hr : r ∈ assigned) (hkeep : r.isRemap = false) : r.newId = r.oldId := by
  induction h with
  | nil => exact absurd hr List.not_mem_nil
  | keep _ _ ih =>
      cases List.mem_cons.mp hr with
      | inl heq =>
          subst heq
          rfl
      | inr hr => exact ih hr
  | remap _ _ _ ih =>
      cases List.mem_cons.mp hr with
      | inl heq =>
          subst heq
          cases hkeep
      | inr hr => exact ih hr

theorem newIds_ne_nil (h : Assigned source taken claimed ids assigned) (hsource : source.Nonempty) :
    ∀ id ∈ newIds assigned, id ≠ [] := by
  induction h with
  | nil => exact fun _ hid => absurd hid List.not_mem_nil
  | keep _ _ ih => exact ih
  | remap _ hgiven _ ih => exact List.forall_mem_cons.mpr ⟨hgiven.ne_nil hsource, ih⟩

theorem notMem_newIds (h : Assigned source taken claimed ids assigned) {id : Text}
    (hid : id ∈ taken) : id ∉ newIds assigned := by
  induction h with
  | nil => exact List.not_mem_nil
  | keep _ _ ih => exact ih (List.mem_cons_of_mem _ hid)
  | remap _ hgiven _ ih =>
      intro hmem
      cases List.mem_cons.mp hmem with
      | inl heq =>
          subst heq
          exact hgiven.fresh hid
      | inr hmem => exact ih (List.mem_cons_of_mem _ hid) hmem

theorem mem_claimed (h : Assigned source taken claimed ids assigned) (hids : ids ⊆ taken)
    (hnodup : ids.Nodup) {r : Resolution} (hr : r ∈ assigned) (hremap : r.isRemap = true) :
    r.oldId ∈ claimed := by
  induction h with
  | nil => exact absurd hr List.not_mem_nil
  | @keep taken claimed ids id rest _ hbehind ih =>
      obtain ⟨hid, hrest⟩ := List.nodup_cons.mp hnodup
      have hsub := (List.cons_subset.mp hids).2
      cases List.mem_cons.mp hr with
      | inl heq =>
          subst heq
          cases hremap
      | inr hr =>
          have hold : r.oldId ∈ ids := hbehind.map_oldId ▸ List.mem_map_of_mem hr
          cases List.mem_cons.mp (ih (List.subset_cons_of_subset id hsub) hrest hr) with
          | inl heq => exact absurd (heq ▸ hold) hid
          | inr hmem => exact hmem
  | @remap taken claimed ids id newId rest hcollides hgiven hbehind ih =>
      obtain ⟨hid, hrest⟩ := List.nodup_cons.mp hnodup
      have hsub := (List.cons_subset.mp hids).2
      cases List.mem_cons.mp hr with
      | inl heq =>
          subst heq
          exact hcollides
      | inr hr =>
          have hold : r.oldId ∈ ids := hbehind.map_oldId ▸ List.mem_map_of_mem hr
          cases List.mem_cons.mp (ih (List.subset_cons_of_subset newId hsub) hrest hr) with
          | inl heq => exact absurd (heq ▸ hsub hold) hgiven.fresh
          | inr hmem => exact hmem

/-- Every id is assigned as often as it must be: once to the first record that has it, unless it is
claimed, and once as a new id. -/
theorem count_newId (h : Assigned source taken claimed ids assigned) (hids : ids ⊆ taken)
    (x : Text) : (assigned.map Resolution.newId).count x =
      (if x ∈ ids ∧ x ∉ claimed then 1 else 0) + if x ∈ newIds assigned then 1 else 0 := by
  induction h with
  | nil => rfl
  | @keep taken claimed ids id rest hfree hbehind ih =>
      have hsub := (List.cons_subset.mp hids).2
      have hnew : newIds (.keep .base id freeReason :: rest) = newIds rest := rfl
      rw [List.map_cons, List.count_cons, ih (List.subset_cons_of_subset id hsub), hnew]
      by_cases heq : id = x
      · subst heq
        simp [Resolution.keep, hfree, Nat.add_comm]
      · have heq' : x ≠ id := fun h => heq h.symm
        simp [Resolution.keep, heq, heq']
  | @remap taken claimed ids id newId rest hcollides hgiven hbehind ih =>
      have hsub := (List.cons_subset.mp hids).2
      have hnew : newIds (.remap id newId collisionReason :: rest) = newId :: newIds rest := rfl
      rw [List.map_cons, List.count_cons, ih (List.subset_cons_of_subset newId hsub), hnew]
      by_cases heq : newId = x
      · subst heq
        have hids' : newId ∉ id :: ids := fun hmem => hgiven.fresh (hids hmem)
        have hrest := hbehind.notMem_newIds List.mem_cons_self
        simp [Resolution.remap, hids', hrest]
      · have heq' : x ≠ newId := fun h => heq h.symm
        have hmem : (x ∈ id :: ids ∧ x ∉ claimed) ↔ (x ∈ ids ∧ x ∉ newId :: claimed) := by
          simp only [List.mem_cons, heq', false_or]
          constructor
          · rintro ⟨rfl | hmem, hfree⟩
            · exact absurd hcollides hfree
            · exact ⟨hmem, hfree⟩
          · exact fun hx => ⟨.inr hx.1, hx.2⟩
        simp only [hmem]
        simp [Resolution.remap, heq, heq']

theorem nodup_newId (h : Assigned source taken claimed ids assigned) (hids : ids ⊆ taken) :
    (assigned.map Resolution.newId).Nodup := by
  refine List.nodup_iff_count.mpr fun x => ?_
  rw [h.count_newId hids]
  by_cases hx : x ∈ ids
  · rw [if_neg (h.notMem_newIds (hids hx))]
    split <;> omega
  · rw [if_neg fun hmem => hx hmem.1]
    split <;> omega

end Assigned

end IssueMerge
