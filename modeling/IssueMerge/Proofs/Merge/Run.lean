import IssueMerge.Merge
import IssueMerge.Proofs.Store.Written

/-!
How a run that resolves the conflicts of a file ends, on any disk.
-/

namespace IssueMerge

open Outcome

section

variable {σ : Type} [Disk (StateM σ)] {view : σ → MemoryDisk} {s s' : σ} {path : Path}
  {options : MergeOptions (StateM σ)} {attempt : Attempt MergeReport}

/-- How a run ends: it fails before anything is written, it has nothing to write, or it ends as
writing the new lines does. -/
theorem resolveConflicts_run (hdisk : Disk.Follows view)
    (h : resolveConflicts path options s = (attempt, s')) :
    ((∃ e, attempt.result = .error e) ∧ view s' = view s) ∨
      ∃ lines merge, (view s).Holds path lines ∧
        (Merge.ofLines lines options.source options.stem).result = .ok merge ∧
        (((merge.regions = [] ∨ options.dryRun = true) ∧ attempt.result = .ok { path, merge } ∧
            view s' = view s) ∨
          (merge.regions ≠ [] ∧ options.dryRun = false ∧ ∃ s₁ r, view s₁ = view s ∧
            (options.write path merge.content).run s₁ = (r, s') ∧
            (r = .ok () → attempt.result = .ok { path, merge, written := true }) ∧
            (r ≠ .ok () → ∃ e, attempt.result = .error e))) := by
  rcases hread : (Store.readLines (m := StateM σ) path).run s with ⟨found, s₁⟩
  obtain ⟨hview, hlines⟩ := Store.readLines_run hdisk hread
  simp only [resolveConflicts, bind_apply, hread] at h
  cases found with
  | error e =>
      cases h
      exact .inl ⟨⟨_, rfl⟩, hview⟩
  | ok lines =>
      simp only at h
      cases hmerge : (Merge.ofLines lines options.source options.stem).result with
      | error e =>
          simp only [hmerge] at h
          cases h
          exact .inl ⟨⟨_, rfl⟩, hview⟩
      | ok merge =>
          refine .inr ⟨lines, merge, hlines lines rfl, hmerge, ?_⟩
          have hregions : merge.hasConflicts = false ↔ merge.regions = [] := by
            simp [Merge.hasConflicts]
          simp only [hmerge] at h
          split at h
          · next hnothing =>
            cases h
            refine .inl ⟨?_, rfl, hview⟩
            simpa [hregions] using hnothing
          · next hwrites =>
            simp only [Bool.or_eq_true, Bool.not_eq_true', hregions, not_or,
              Bool.not_eq_true] at hwrites
            refine .inr ⟨hwrites.1, hwrites.2, s₁, ?_⟩
            rcases hwrite : (Store.writeLines options.write path merge.lines).run s₁ with ⟨r, s₂⟩
            obtain ⟨r', hrun, hiff⟩ := Store.writeLines_run hwrite
            simp only [bind_apply, hwrite] at h
            cases r with
            | error e =>
                cases h
                refine ⟨r', hview, hrun, fun hok => ?_, fun _ => ⟨_, rfl⟩⟩
                exact absurd (hiff.mpr hok) (by simp)
            | ok _ =>
                cases h
                exact ⟨r', hview, hrun, fun _ => rfl, fun hne => absurd (hiff.mp rfl) hne⟩

end

section

variable {d : MemoryDisk} {path : Path} {lines : List Text}

theorem detectConflicts_run (h : d.Holds path lines) :
    (detectConflicts (m := StateM MemoryDisk) path).run d =
      ((Region.ofLines lines).mapError .numeral, d) := by
  have hread := Store.readLines_of_holds h
  simp only [detectConflicts, Disk.outcome, run_bind_lift, hread]
  cases Region.ofLines lines <;> rfl

/-- On a file without conflicts nothing is asked and nothing is written. -/
theorem resolveConflicts_of_nil (h : d.Holds path lines) (hregions : Region.ofLines lines = .ok [])
    (options : MergeOptions (StateM MemoryDisk)) :
    resolveConflicts path options d = ({ result := .ok { path, merge := { lines } } }, d) := by
  have hread := Store.readLines_of_holds h
  have hmerge : Merge.ofLines lines options.source options.stem =
      { result := .ok { lines } } := by
    simp only [Merge.ofLines, hregions]
  simp only [resolveConflicts, bind_apply, hread, hmerge]
  rfl

/-- Where a new text is refused for its surrogates, this is how the run ends. -/
theorem resolveConflicts_of_unencodable {options : MergeOptions (StateM MemoryDisk)} {merge : Merge}
    {e : Utf8.Unencodable} {d' : MemoryDisk} (h : d.Holds path lines)
    (hmerge : (Merge.ofLines lines options.source options.stem).result = .ok merge)
    (hregions : merge.regions ≠ []) (hdry : options.dryRun = false)
    (hwrite : (options.write path merge.content).run d = (.error (.unencodable e), d')) :
    ∃ asked, resolveConflicts path options d =
      ({ result := .error (.store (.unencodable e)), asked }, d') := by
  have hread := Store.readLines_of_holds h
  have hconflicts : merge.hasConflicts = true := by
    simpa [Merge.hasConflicts] using hregions
  have hlines : (Store.writeLines options.write path merge.lines).run d =
      (.error (.unencodable e), d') := by
    rw [Merge.content] at hwrite
    simp only [Store.writeLines, Disk.outcome, run_bind_lift, hwrite]
    rfl
  refine ⟨(Merge.ofLines lines options.source options.stem).asked, ?_⟩
  simp only [resolveConflicts, bind_apply, hread, hmerge, hconflicts, hdry, Bool.not_true,
    Bool.or_self, Bool.false_eq_true, ↓reduceIte, hlines]
  rfl

end

def storePath : Path :=
  Path.ofText "issues.jsonl"

/-- A disk with a file of the given lines. -/
def storeDisk (lines : List Text) : MemoryDisk where
  entries := [([Text.ofString "issues.jsonl"], .file ((Text.unlines lines).flatMap Utf8.unit))]

end IssueMerge
