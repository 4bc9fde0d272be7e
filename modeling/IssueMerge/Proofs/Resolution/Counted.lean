import IssueMerge.Proofs.Issue.Inverse
import IssueMerge.Proofs.Resolution.Assigned

/-!
The ids that are given out one after the other when the source counts on from the ids in use. From
the first number that the source gives on, no id of its stem is reserved, so none is passed over and
the numbers follow each other without a gap.
-/

namespace IssueMerge

open Outcome IssueId

namespace Allocator

/-- The allocator gives out the ids of a stem from a number on: it counts up from there by itself,
or the source is asked next and answers with this number. -/
structure CountsFrom (source : IdSource) (stem : Text) (n : Nat) (a : Allocator) : Prop where
  next : a.cursor = some ⟨stem, n⟩ ∨
    a.cursor = none ∧ ∀ id, source a.asked = .ok id → id = ofNumber stem n
  free : ∀ m, n ≤ m → ofNumber stem m ∉ a.reserved

variable {source : IdSource} {stem id : Text} {n : Nat} {a a' : Allocator}

theorem CountsFrom.reserve (h : a.CountsFrom source stem n) (hid : id ∈ a.reserved) :
    (a.reserve id).CountsFrom source stem n := by
  refine ⟨h.next, fun m hm hmem => ?_⟩
  cases List.mem_cons.mp hmem with
  | inl heq => exact h.free m hm (heq ▸ hid)
  | inr hmem => exact h.free m hm hmem

theorem fromCursor_of_free {c : Cursor} (hfree : ofNumber c.stem c.number ∉ a.reserved)
    (h : a.fromCursor c = (.ok id, a')) : id = ofNumber c.stem c.number ∧
      a' = { a with cursor := some ⟨c.stem, c.number + 1⟩ } := by
  rw [fromCursor_eq (.of_free hfree)] at h
  split at h
  · next found hformat =>
    cases h
    exact ⟨format_eq_ok hformat, rfl⟩
  · cases h

theorem fromSource_of_number {attempts : Nat} (hstem : stem ≠ [])
    (hfree : ofNumber stem n ∉ a.reserved)
    (hanswer : ∀ id, source a.asked = .ok id → id = ofNumber stem n)
    (h : fromSource source (attempts + 1) a = (.ok id, a')) : id = ofNumber stem n ∧
      a' = { a with asked := a.asked + 1, cursor := some ⟨stem, n + 1⟩ } := by
  rw [fromSource_succ] at h
  split at h
  · cases (Prod.mk.inj h).1
  · next found hfound =>
    obtain rfl := hanswer found hfound
    have hnumber : ∀ {p}, parts (ofNumber stem n) = .ok p →
        p.number.map (p.stem, ·) = some (stem, n) :=
      fun hparts => (numbered?_of_parts hparts).symm.trans (numbered?_ofNumber hstem n)
    split at h
    · cases (Prod.mk.inj h).1
    · next hparts =>
      cases hnumber hparts
      rw [if_neg hfree] at h
      obtain ⟨hid, ha'⟩ := Prod.mk.inj h
      cases hid
      exact ⟨rfl, ha'.symm⟩
    · next hparts => cases hnumber hparts

/-- One step of allocation: the id with the next number is given out and reserved. -/
theorem CountsFrom.step (h : a.CountsFrom source stem n) (hstem : stem ≠ [])
    (hnext : a.next source = (.ok id, a')) :
    id = ofNumber stem n ∧ (a'.reserve id).CountsFrom source stem (n + 1) := by
  have hfree := h.free n (Nat.le_refl n)
  have hgiven : id = ofNumber stem n ∧ a'.cursor = some ⟨stem, n + 1⟩ ∧
      a'.reserved = a.reserved := by
    simp only [Allocator.next] at hnext
    cases h.next with
    | inl hcursor =>
        rw [hcursor] at hnext
        obtain ⟨hid, rfl⟩ := fromCursor_of_free hfree hnext
        exact ⟨hid, rfl, rfl⟩
    | inr hasked =>
        obtain ⟨hcursor, hanswer⟩ := hasked
        rw [hcursor] at hnext
        obtain ⟨hid, rfl⟩ := fromSource_of_number hstem hfree hanswer hnext
        exact ⟨hid, rfl, rfl⟩
  obtain ⟨rfl, hcursor, hreserved⟩ := hgiven
  refine ⟨rfl, .inl hcursor, fun m hm hmem => ?_⟩
  cases List.mem_cons.mp hmem with
  | inl heq =>
      have hsame := ofNumber_injective heq
      omega
  | inr hmem => exact h.free m (by omega) (hreserved ▸ hmem)

end Allocator

namespace Resolver

variable {source : IdSource} {stem : Text}

theorem newIds_start (headIds reserved : List Text) :
    newIds (start headIds reserved).resolutions = [] := by
  rw [newIds, List.map_eq_nil_iff, List.filter_eq_nil_iff]
  intro r hr
  obtain ⟨id, _, rfl⟩ := List.mem_map.mp hr
  exact Bool.false_ne_true

/-- The new ids of a run are those of the numbers from the next one on. -/
theorem run_counts (hstem : stem ≠ []) {ids : List Text} {n : Nat} {s s' : Resolver}
    (hids : ids ⊆ s.allocator.reserved) (hcounts : s.allocator.CountsFrom source stem n)
    (h : s.run source ids = (.ok (), s')) :
    ∃ count, newIds s'.resolutions =
      newIds s.resolutions ++ (List.range' n count).map (ofNumber stem) := by
  induction ids generalizing n s with
  | nil =>
      cases (Prod.mk.inj h).2
      exact ⟨0, (List.append_nil _).symm⟩
  | cons id ids ih =>
      obtain ⟨hid, hrest⟩ := List.cons_subset.mp hids
      rw [run_cons] at h
      split at h
      · split at h
        · next newId allocator hnext =>
          obtain ⟨rfl, hcounts'⟩ := hcounts.step hstem hnext
          have hreserved := (Allocator.next_gives hnext).2
          have hids' : ids ⊆ (s.remap id (ofNumber stem n) allocator).allocator.reserved :=
            List.subset_cons_of_subset _ (hreserved ▸ hrest)
          obtain ⟨count, hnew⟩ := ih hids' hcounts' h
          refine ⟨count + 1, hnew.trans ?_⟩
          rw [List.range'_succ, List.map_cons, newIds, newIds, remap, List.filter_append,
            List.map_append, List.append_assoc]
          rfl
        · cases (Prod.mk.inj h).1
      · obtain ⟨count, hnew⟩ := ih (List.subset_cons_of_subset _ hrest) (hcounts.reserve hid) h
        refine ⟨count, hnew.trans ?_⟩
        rw [newIds, newIds, keep, List.filter_append]
        exact congrArg (·.map Resolution.newId ++ _) (List.append_nil _)

end Resolver

namespace ResolutionPlan

/-- The remaps of a plan lead to the ids that the source counts on from the ids in use, in order. -/
theorem newIds_of_namespaceScan {regions : List Region} {scan : NamespaceScan}
    {plan : ResolutionPlan} (hstem : scan.stem ≠ some [])
    (hheads : regions.flatMap Region.headIds ⊆ scan.ids)
    (hbases : regions.flatMap Region.baseIds ⊆ scan.ids)
    (h : (resolve regions scan.source scan.ids).plan = .ok plan) :
    plan.remaps.map Resolution.newId =
      (List.range' (highestNumber scan.usedStem scan.ids + 1) plan.remaps.length).map
        (ofNumber scan.usedStem) := by
  have hused := NamespaceScan.usedStem_ne_nil hstem
  simp only [resolve] at h
  obtain ⟨⟨⟩, hrun, rfl⟩ := map_eq_ok.mp h
  have hcounts : (Resolver.start (regions.flatMap Region.headIds) scan.ids).allocator.CountsFrom
      scan.source scan.usedStem (highestNumber scan.usedStem scan.ids + 1) := by
    refine ⟨.inr ⟨rfl, fun id hid => (NamespaceScan.source_eq_ok.mp hid).2.2⟩, fun m hm hmem => ?_⟩
    have hid : ofNumber scan.usedStem m ∈ scan.ids :=
      (List.mem_append.mp hmem).elim id fun hhead => hheads hhead
    have hle := le_highestNumber hid (numbered?_ofNumber hused m)
    omega
  obtain ⟨count, hnew⟩ := Resolver.run_counts hused (List.subset_append_of_subset_left _ hbases)
    hcounts (Prod.ext hrun rfl)
  rw [Resolver.newIds_start, List.nil_append, newIds] at hnew
  have hlength := congrArg List.length hnew
  rw [List.length_map, List.length_map, List.length_range'] at hlength
  simp only [remaps, hnew, hlength]

end ResolutionPlan

end IssueMerge
