import IssueMerge.Proofs.Conflict.Scan
import IssueMerge.Proofs.Rebuild.Run
import IssueMerge.Proofs.Resolution.Settled

/-!
The scan of a file and the walk that rebuilds it see the same conflicts. So the check that a plan fits
a file is exact, and a plan that was made for the regions of a file fits it.
-/

namespace IssueMerge

open Outcome

namespace Scan

variable {s s' : Scan} {number : Nat} {line : Text}

theorem addContent_ok (h : s.addContent line = .ok s') :
    s'.pending.isSome = s.pending.isSome ∧ s'.regions = s.regions := by
  simp only [addContent] at h
  split at h
  · cases h
    exact ⟨rfl, rfl⟩
  · next hpending =>
    split at h
    · cases h
      exact ⟨rfl, rfl⟩
    · obtain ⟨found, _, h⟩ := bind_eq_ok.mp h
      cases found <;> cases h <;> simp [hpending]

/-- A step opens and closes a region where the division opens and closes a stretch. -/
theorem step_count (h : s.step number line = .ok s') {pending : Layout.Pending}
    (hpending : s.pending.isSome = pending.isSome) :
    s'.pending.isSome = (Layout.advance pending line).2.isSome ∧
      s'.regions.length =
        s.regions.length + (Layout.advance pending line).1.countP Block.isConflict := by
  by_cases hk : LineKind.ofLine line = .content
  · have hcontent : s.addContent line = .ok s' := by simpa only [step, hk] using h
    obtain ⟨hsame, hregions⟩ := addContent_ok hcontent
    rw [hsame, hregions, hpending]
    cases pending <;> simp [Layout.advance, hk, Block.isConflict]
  · simp only [step] at h
    cases hs : s.pending <;> cases pending <;> rw [hs] at hpending h <;>
      simp only [Option.isSome_none, Option.isSome_some, reduceCtorEq] at hpending <;>
      cases hkind : LineKind.ofLine line <;> rw [hkind] at h <;>
      first
      | exact absurd hkind hk
      | (cases h; simp [Layout.advance, hkind, Block.isConflict])

theorem run_count {lines : List Text} (pending : Layout.Pending)
    (h : s.run number lines = .ok s') (hpending : s.pending.isSome = pending.isSome) :
    s'.regions.length =
      s.regions.length + (Layout.divide pending lines).countP Block.isConflict := by
  induction lines generalizing s number pending with
  | nil =>
      cases h
      cases pending <;> rfl
  | cons line lines ih =>
      obtain ⟨s₁, hstep, hrun⟩ := bind_eq_ok.mp h
      obtain ⟨hpending₁, hcount⟩ := step_count hstep hpending
      rw [ih _ hrun hpending₁, hcount, Layout.divide, List.countP_append, Nat.add_assoc]

end Scan

/-- A scan that gets through finds as many regions as there are conflicts with both markers. -/
theorem Region.length_of_ofLines {lines : List Text} {regions : List Region}
    (h : Region.ofLines lines = .ok regions) :
    regions.length = (Layout.ofLines lines).countP Block.isConflict := by
  obtain ⟨s, hs, rfl⟩ := map_eq_ok.mp h
  have hcount := Scan.run_count none hs rfl
  rwa [List.length_nil, Nat.zero_add] at hcount

theorem Region.eq_nil_of_ofLines {lines : List Text} {regions : List Region}
    (h : Region.ofLines lines = .ok regions) :
    regions = [] ↔ ∀ block ∈ Layout.ofLines lines, block.isConflict = false := by
  rw [← List.length_eq_zero_iff, Region.length_of_ofLines h, List.countP_eq_zero]
  simp only [Bool.not_eq_true]

namespace ResolutionPlan

variable {lines : List Text}

theorem rebuild_of_map_ne (plan : ResolutionPlan) (h : ∀ line ∈ lines, Legible line)
    (hids : (plan.onSide .base).map Resolution.oldId ≠ (Layout.ofLines lines).baseIds) :
    ∃ e, plan.rebuild lines = .error e ∧ e.IsOutOfStep :=
  (Layout.readable_of_legible h none).rebuild_of_map_ne plan hids

theorem rebuild_isOk_iff (h : ∀ line ∈ lines, Legible line) (plan : ResolutionPlan) :
    (∃ s, plan.rebuild lines = .ok s) ↔
      (plan.onSide .base).map Resolution.oldId = (Layout.ofLines lines).baseIds := by
  constructor
  · rintro ⟨s, hs⟩
    exact (of_rebuild hs).1
  · intro hids
    obtain ⟨s, hs, _⟩ := (Layout.readable_of_legible h none).rebuild_of_map_eq plan hids
    exact ⟨s, hs⟩

theorem regionsResolved_of_rebuild {plan : ResolutionPlan} {s : Rebuild}
    (hs : plan.rebuild lines = .ok s) :
    s.regionsResolved = (Layout.ofLines lines).countP Block.isConflict :=
  (of_rebuild hs).2.2

end ResolutionPlan

/-- Scan and rebuild agree on every file that can be read: a plan gets through exactly when its
entries for the base side are for the records the scan found there, all regions are then resolved,
and a plan made for these regions always gets through. -/
theorem scan_rebuild_lockstep {lines : List Text} (h : ∀ line ∈ lines, Legible line) :
    ∃ regions, Region.ofLines lines = .ok regions ∧
      (∀ plan : ResolutionPlan,
        ((∃ s, plan.rebuild lines = .ok s) ↔
          (plan.onSide .base).map Resolution.oldId = regions.flatMap Region.baseIds) ∧
        ((plan.onSide .base).map Resolution.oldId ≠ regions.flatMap Region.baseIds →
          ∃ e, plan.rebuild lines = .error e ∧ e.IsOutOfStep) ∧
        ∀ s, plan.rebuild lines = .ok s → s.regionsResolved = regions.length) ∧
      ∀ (source : IdSource) (reserved : List Text) (plan : ResolutionPlan),
        (ResolutionPlan.resolve regions source reserved).plan = .ok plan →
          ∃ s, plan.rebuild lines = .ok s := by
  have hbase := Layout.flatMap_baseIds_regionsFrom 1 (Layout.ofLines lines)
  refine ⟨_, Region.ofLines_eq h, ?_, ?_⟩
  · intro plan
    rw [hbase, Layout.length_regionsFrom]
    exact ⟨plan.rebuild_isOk_iff h, plan.rebuild_of_map_ne h,
      fun s hs => ResolutionPlan.regionsResolved_of_rebuild hs⟩
  · intro source reserved plan hplan
    apply (plan.rebuild_isOk_iff h).mpr
    rw [(ResolutionPlan.settles_of_resolve hplan).map_oldId, hbase]

/-- A conflict over one id, on whose base side another record depends on the one with that id. -/
def collidingLines : List Text :=
  ["<<<<<<< ours",
    "\x7b\"id\":\"bd-1\",\"title\":\"ours\",\"notes\":\"blocks bd-1\"\x7d",
    "||||||| base",
    "\x7b\"id\":\"bd-9\"\x7d",
    "=======",
    "\x7b\"id\":\"bd-1\",\"title\":\"theirs\",\"owner\":\"x\"\x7d",
    "\x7b\"id\":\"bd-2\",\"dependencies\":[\x7b\"issue_id\":\"bd-2\",\"depends_on_id\":\"bd-1\"\x7d],\"notes\":\"after bd-1.\"\x7d",
    ">>>>>>> theirs",
    "\x7b\"id\":\"bd-3\"\x7d"]

/-- A source whose first answer is in use in these lines. -/
def countingSource : IdSource := fun k =>
  .ok ("bd-" ++ Numeral.digits (k + 3))

theorem scan_rebuild_lockstep_collidingLines :
    (∀ line ∈ collidingLines, Legible line) ∧
      ∃ regions plan s, Region.ofLines collidingLines = .ok regions ∧
        (ResolutionPlan.resolve regions countingSource []).plan = .ok plan ∧
        plan.rebuild collidingLines = .ok s ∧ s.regionsResolved = regions.length := by
  have hlegible : ∀ line ∈ collidingLines, Legible line := by decide +kernel
  have hresolved : ((Region.ofLines collidingLines).toOption.any fun regions =>
      (ResolutionPlan.resolve regions countingSource []).plan.isOk) = true := by decide +kernel
  obtain ⟨regions, hregions, hplans, hmade⟩ := scan_rebuild_lockstep hlegible
  rw [hregions] at hresolved
  cases hplan : (ResolutionPlan.resolve regions countingSource []).plan with
  | error e =>
      simp only [Except.toOption, Option.any_some, hplan] at hresolved
      cases hresolved
  | ok plan =>
      obtain ⟨s, hs⟩ := hmade countingSource [] plan hplan
      exact ⟨hlegible, regions, plan, s, hregions, hplan, hs, (hplans plan).2.2 s hs⟩

end IssueMerge
