import IssueMerge.Proofs.Issue.Numbered
import IssueMerge.Resolution.Allocator
import Mathlib.Data.Finset.Card
import Mathlib.Data.Nat.Find
import Mathlib.Tactic.Push

/-!
What the allocator gives out is not reserved. Counting up passes over different ids only, so it comes
to one that is not reserved before it has passed over more ids than are reserved, and it gives the
first such id.
-/

namespace IssueMerge

open IssueId Outcome

/-- A source that never answers with the empty id. -/
def IdSource.Nonempty (source : IdSource) : Prop :=
  ∀ k id, source k = .ok id → id ≠ []

/-- An id that is given out: it is not reserved, and not empty unless the source gives such ids. -/
structure IdSource.Gives (source : IdSource) (reserved : List Text) (id : Text) : Prop where
  fresh : id ∉ reserved
  ne_nil : source.Nonempty → id ≠ []

namespace Allocator

/-- The first number from a cursor on whose id is not reserved. -/
structure FirstFree (reserved : List Text) (c : Cursor) (m : Nat) : Prop where
  le : c.number ≤ m
  free : ofNumber c.stem m ∉ reserved
  least : ∀ k, c.number ≤ k → k < m → ofNumber c.stem k ∈ reserved

/-- There are no more ids to pass over than are reserved, for they are all different. -/
theorem exists_free (reserved : List Text) (c : Cursor) :
    ∃ k, k ≤ reserved.toFinset.card ∧ ofNumber c.stem (c.number + k) ∉ reserved := by
  by_contra hnone
  push Not at hnone
  have hinjective : Function.Injective fun k => ofNumber c.stem (c.number + k) := by
    intro j k hsame
    exact Nat.add_left_cancel (ofNumber_injective hsame)
  have hsubset : (Finset.range (reserved.toFinset.card + 1)).image
      (fun k => ofNumber c.stem (c.number + k)) ⊆ reserved.toFinset := by
    intro id hid
    obtain ⟨k, hk, rfl⟩ := Finset.mem_image.mp hid
    exact List.mem_toFinset.mpr (hnone k (Nat.lt_succ_iff.mp (Finset.mem_range.mp hk)))
  have hcard := Finset.card_le_card hsubset
  rw [Finset.card_image_of_injective _ hinjective, Finset.card_range] at hcard
  exact Nat.not_succ_le_self _ hcard

theorem exists_firstFree (reserved : List Text) (c : Cursor) : ∃ m, FirstFree reserved c m := by
  obtain ⟨k, _, hfree⟩ := exists_free reserved c
  have hsome : ∃ m, c.number ≤ m ∧ ofNumber c.stem m ∉ reserved :=
    ⟨c.number + k, Nat.le_add_right _ _, hfree⟩
  refine ⟨Nat.find hsome, (Nat.find_spec hsome).1, (Nat.find_spec hsome).2, fun j hle hlt => ?_⟩
  by_contra hnot
  exact Nat.find_min hsome hlt ⟨hle, hnot⟩

variable {reserved : List Text} {c : Cursor} {m : Nat}

theorem FirstFree.of_free (h : ofNumber c.stem c.number ∉ reserved) :
    FirstFree reserved c c.number where
  le := Nat.le_refl _
  free := h
  least _ hle hlt := absurd hlt (Nat.not_lt.mpr hle)

theorem FirstFree.le_add_card (h : FirstFree reserved c m) :
    m ≤ c.number + reserved.toFinset.card := by
  obtain ⟨k, hk, hfree⟩ := exists_free reserved c
  by_contra hgreater
  exact hfree (h.least (c.number + k) (Nat.le_add_right _ _) (by omega))

theorem FirstFree.next (h : FirstFree reserved c m) (hne : c.number ≠ m) :
    FirstFree reserved { c with number := c.number + 1 } m where
  le := Nat.lt_of_le_of_ne h.le hne
  free := h.free
  least k hle hlt := h.least k (Nat.le_of_succ_le hle) hlt

theorem FirstFree.mem_iff (h : FirstFree reserved c m) :
    ofNumber c.stem c.number ∈ reserved ↔ c.number ≠ m := by
  constructor
  · intro hmem heq
    rw [heq] at hmem
    exact h.free hmem
  · intro hne
    exact h.least c.number (Nat.le_refl _) (Nat.lt_of_le_of_ne h.le hne)

theorem countUp_zero (reserved : List Text) (c : Cursor) : countUp reserved 0 c =
    (fun id => (id, ⟨c.stem, c.number + 1⟩)) <$> format c.stem c.number := rfl

theorem countUp_succ (reserved : List Text) (skips : Nat) (c : Cursor) :
    countUp reserved (skips + 1) c = (do
      let id ← format c.stem c.number
      if id ∈ reserved then countUp reserved skips { c with number := c.number + 1 }
      else .ok (id, { c with number := c.number + 1 })) := rfl

/-- Counting up gives the first id that is not reserved, unless its number is too long. -/
theorem countUp_eq {skips : Nat} (h : FirstFree reserved c m) (hskips : m ≤ c.number + skips) :
    countUp reserved skips c = (fun id => (id, ⟨c.stem, m + 1⟩)) <$> format c.stem m := by
  induction skips generalizing c with
  | zero =>
      have heq : c.number = m := Nat.le_antisymm h.le hskips
      rw [countUp_zero, heq]
  | succ skips ih =>
      rw [countUp_succ]
      cases hformat : format c.stem c.number with
      | error e =>
          rw [format_eq_error_of_le h.le hformat]
          rfl
      | ok id =>
          obtain rfl := format_eq_ok hformat
          by_cases heq : c.number = m
          · have hfree := mt h.mem_iff.mp (not_not.mpr heq)
            rw [← heq, hformat]
            exact if_neg hfree
          · have hrest := ih (h.next heq) (by simp only; omega)
            exact (if_pos (h.mem_iff.mpr heq)).trans hrest

variable {a a' : Allocator} {source : IdSource} {id : Text}

/-- Counting up passes over no more ids than it has to. -/
theorem fromCursor_eq (h : FirstFree a.reserved c m) : a.fromCursor c =
    match format c.stem m with
    | .ok id => (.ok id, { a with cursor := some ⟨c.stem, m + 1⟩ })
    | .error e => (.error (.numeral e), a) := by
  have hskips := Nat.le_trans h.le_add_card
    (Nat.add_le_add_left (List.toFinset_card_le a.reserved) c.number)
  rw [fromCursor, countUp_eq h hskips]
  cases format c.stem m <;> rfl

theorem fromCursor_gives (h : a.fromCursor c = (.ok id, a')) :
    source.Gives a.reserved id ∧ a'.reserved = a.reserved := by
  obtain ⟨m, hfirst⟩ := exists_firstFree a.reserved c
  rw [fromCursor_eq hfirst] at h
  split at h
  · next found hformat =>
    cases h
    have hfree := format_eq_ok hformat ▸ hfirst.free
    exact ⟨⟨hfree, fun _ => format_ne_nil hformat⟩, rfl⟩
  · cases h

theorem fromSource_succ (source : IdSource) (attempts : Nat) (a : Allocator) :
    fromSource source (attempts + 1) a =
      match source a.asked with
      | .error reason => (.error (.sourceFailed reason), { a with asked := a.asked + 1 })
      | .ok id =>
        match IssueId.parts id with
        | .error e => (.error (.numeral e), { a with asked := a.asked + 1 })
        | .ok ⟨stem, some n⟩ =>
          if id ∈ a.reserved then { a with asked := a.asked + 1 }.fromCursor ⟨stem, n + 1⟩
          else (.ok id, { a with asked := a.asked + 1, cursor := some ⟨stem, n + 1⟩ })
        | .ok ⟨_, none⟩ =>
          if id ∈ a.reserved then fromSource source attempts { a with asked := a.asked + 1 }
          else (.ok id, { a with asked := a.asked + 1 }) :=
  rfl

theorem fromSource_gives {attempts : Nat} (h : fromSource source attempts a = (.ok id, a')) :
    source.Gives a.reserved id ∧ a'.reserved = a.reserved := by
  induction attempts generalizing a with
  | zero => cases (Prod.mk.inj h).1
  | succ attempts ih =>
      rw [fromSource_succ] at h
      split at h
      · cases (Prod.mk.inj h).1
      · next found hfound =>
        split at h
        · cases (Prod.mk.inj h).1
        · split at h
          · obtain ⟨hid, hreserved⟩ := fromCursor_gives h
            exact ⟨hid, hreserved⟩
          · next hfresh =>
            obtain ⟨hid, ha'⟩ := Prod.mk.inj h
            cases hid
            exact ⟨⟨hfresh, fun hsource => hsource _ _ hfound⟩, by rw [← ha']⟩
        · split at h
          · have hlater := ih h
            exact hlater
          · next hfresh =>
            obtain ⟨hid, ha'⟩ := Prod.mk.inj h
            cases hid
            exact ⟨⟨hfresh, fun hsource => hsource _ _ hfound⟩, by rw [← ha']⟩

theorem next_gives (h : a.next source = (.ok id, a')) :
    source.Gives a.reserved id ∧ a'.reserved = a.reserved := by
  simp only [next] at h
  split at h
  · exact fromCursor_gives h
  · exact fromSource_gives h

end Allocator

end IssueMerge
