import IssueMerge.Proofs.Merge.Resolved
import IssueMerge.Proofs.Merge.Run

/-!
A file whose conflicts are resolved with the atomic writer is replaced as a whole or not touched at
all, whenever a file is not read, not opened, filled in part only or not moved. Looking for a file and
removing one are not among what fails.
-/

namespace IssueMerge

open Outcome

variable {path : Path} {options : MergeOptions (StateM UnreliableDisk)} {s s' : UnreliableDisk}
  {attempt : Attempt MergeReport}

/-- With the atomic writer a run replaces the file, or it changes nothing: because it fails, or
because there is nothing to write. -/
theorem resolveConflicts_atomic (hwrite : options.write = Store.writeAtomic)
    (hvacant : s.disk.Vacant (Store.besidePath path))
    (h : resolveConflicts path options s = (attempt, s')) :
    (s'.disk = s.disk ∧ ∃ e, attempt.result = .error e) ∨
      ∃ lines merge, s.disk.Holds path lines ∧
        (Merge.ofLines lines options.source options.stem).result = .ok merge ∧
        ((s'.disk = s.disk ∧ (merge.regions = [] ∨ options.dryRun = true) ∧
            attempt.result = .ok { path, merge }) ∨
          (merge.regions ≠ [] ∧ options.dryRun = false ∧
            attempt.result = .ok { path, merge, written := true } ∧
            ∃ bytes, Utf8.encode merge.content = .ok bytes ∧
              Store.Replaced path bytes s.disk s'.disk)) := by
  obtain ⟨he, hview⟩ | ⟨lines, merge, hlines, hmerge, hcases⟩ :=
    resolveConflicts_run UnreliableDisk.follows h
  · exact .inl ⟨hview, he⟩
  · rcases hcases with ⟨hnothing, hresult, hview⟩ | ⟨hregions, hdry, s₁, r, hview, hrun, hok, herror⟩
    · exact .inr ⟨lines, merge, hlines, hmerge, .inl ⟨hview, hnothing, hresult⟩⟩
    · rw [hwrite] at hrun
      have hwritten := Store.writeAtomic_run UnreliableDisk.follows hrun
      rw [hview] at hwritten
      rcases hwritten with ⟨bytes, rfl, hbytes, hreplaced⟩ | ⟨⟨e, rfl⟩, hunchanged⟩
      · exact .inr ⟨lines, merge, hlines, hmerge,
          .inr ⟨hregions, hdry, hok rfl, bytes, hbytes, hreplaced⟩⟩
      · exact .inl ⟨hunchanged hvacant, herror (by simp)⟩

/-- Resolving with the atomic writer is all or nothing. Whatever the file holds and whichever time
reading, opening, filling or moving a file is refused, the file holds the whole new text and the report
says that it was written, or the disk is as it was; and nothing is written exactly when there is no
conflict with both markers or the run is dry. Nothing is left beside the file, for removing one is not
refused. -/
theorem resolve_all_or_nothing (hwrite : options.write = Store.writeAtomic)
    (hvacant : s.disk.Vacant (Store.besidePath path))
    (h : resolveConflicts path options s = (attempt, s')) :
    s'.disk.Vacant (Store.besidePath path) ∧
      (∀ report, attempt.result = .ok report → ∃ lines, s.disk.Holds path lines ∧
        (report.written = false ↔
          (∀ block ∈ Layout.ofLines lines, block.isConflict = false) ∨ options.dryRun = true)) ∧
      ((∃ report bytes place, attempt.result = .ok report ∧ report.written = true ∧
          Utf8.encode report.merge.content = .ok bytes ∧ s.disk.place path = .ok place ∧
          s'.disk = s.disk.put place (.file bytes) ∧ s'.disk.read path = .ok bytes) ∨
        (s'.disk = s.disk ∧ ∀ report, attempt.result = .ok report → report.written = false)) := by
  rcases resolveConflicts_atomic hwrite hvacant h with
    ⟨hsame, e, he⟩ | ⟨lines, merge, hlines, hmerge, hcases⟩
  · have hfailed : ∀ report, attempt.result ≠ .ok report := by
      intro report hreport
      rw [he] at hreport
      cases hreport
    rw [hsame]
    exact ⟨hvacant, fun report hreport => absurd hreport (hfailed report),
      .inr ⟨rfl, fun report hreport => absurd hreport (hfailed report)⟩⟩
  have hnone := Region.eq_nil_of_ofLines (Merge.regions_of_ofLines hmerge)
  rcases hcases with ⟨hsame, hnothing, hresult⟩ | ⟨hregions, hdry, hresult, bytes, hbytes, hreplaced⟩
  · rw [hsame]
    refine ⟨hvacant, fun report hreport => ?_, .inr ⟨rfl, fun report hreport => ?_⟩⟩
    · rw [hresult] at hreport
      cases hreport
      exact ⟨lines, hlines, fun _ => hnothing.imp_left hnone.mp, fun _ => rfl⟩
    · rw [hresult] at hreport
      cases hreport
      rfl
  · obtain ⟨place, hplace, hput⟩ := hreplaced.eq_put hvacant
    refine ⟨hreplaced.vacant_beside, fun report hreport => ?_,
      .inl ⟨_, bytes, place, hresult, rfl, hbytes, hplace, hput, hreplaced.read_eq⟩⟩
    rw [hresult] at hreport
    cases hreport
    refine ⟨lines, hlines, ?_⟩
    rw [← hnone, hdry]
    simp [hregions]

/-- The disk on which one operation is refused. -/
def refusingDisk (lines : List Text) (refused : Nat) : UnreliableDisk where
  disk := storeDisk lines
  fault? k := if k = refused then some { error := .on .busy storePath } else none

def atomicOptions : MergeOptions (StateM UnreliableDisk) where
  source := some countingSource
  write := Store.writeAtomic

theorem vacant_storeDisk : (storeDisk collidingLines).Vacant (Store.besidePath storePath) := by
  have hplace : (storeDisk collidingLines).place (Store.besidePath storePath) =
      .ok [Text.ofString "issues.jsonl.tmp"] := by decide +kernel
  have hnode : (storeDisk collidingLines).node? [Text.ofString "issues.jsonl.tmp"] = none := by
    decide +kernel
  refine MemoryDisk.vacant_iff.mpr fun place h => ?_
  rw [hplace] at h
  cases h
  exact hnode

/-- When the move is refused nothing happens; when something is refused later the file is
replaced. -/
theorem resolve_all_or_nothing_refusingDisk :
    (storeDisk collidingLines).Vacant (Store.besidePath storePath) ∧
      (resolveConflicts storePath atomicOptions (refusingDisk collidingLines 3)).2.disk =
        storeDisk collidingLines ∧
      ∃ report bytes,
        (resolveConflicts storePath atomicOptions (refusingDisk collidingLines 4)).1.result =
          .ok report ∧
        Utf8.encode report.merge.content = .ok bytes ∧
        (resolveConflicts storePath atomicOptions
          (refusingDisk collidingLines 4)).2.disk.read storePath = .ok bytes := by
  have hrefused : (resolveConflicts storePath atomicOptions
      (refusingDisk collidingLines 3)).1.result.isOk = false := by decide +kernel
  have hwritten : (resolveConflicts storePath atomicOptions
      (refusingDisk collidingLines 4)).1.result.toOption.map (·.written) = some true := by
    decide +kernel
  rcases hrun₃ : resolveConflicts storePath atomicOptions (refusingDisk collidingLines 3) with
    ⟨attempt₃, s₃⟩
  rcases hrun₄ : resolveConflicts storePath atomicOptions (refusingDisk collidingLines 4) with
    ⟨attempt₄, s₄⟩
  rw [hrun₃] at hrefused
  rw [hrun₄] at hwritten
  have hvacant := vacant_storeDisk
  refine ⟨hvacant, ?_, ?_⟩
  · obtain ⟨_, _, ⟨report, _, _, hresult, _⟩ | ⟨hsame, _⟩⟩ :=
      resolve_all_or_nothing rfl hvacant hrun₃
    · simp only [hresult] at hrefused
      cases hrefused
    · exact hsame
  · obtain ⟨_, _, ⟨report, bytes, _, hresult, _, hbytes, _, _, hread⟩ | ⟨_, hnone⟩⟩ :=
      resolve_all_or_nothing rfl hvacant hrun₄
    · exact ⟨report, bytes, hresult, hbytes, hread⟩
    · cases hresult : attempt₄.result with
      | error e =>
          simp only [hresult] at hwritten
          cases hwritten
      | ok report =>
          simp only [hresult, Except.toOption, Option.map_some, hnone report hresult] at hwritten
          cases hwritten

end IssueMerge
