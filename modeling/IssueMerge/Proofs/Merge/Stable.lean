import IssueMerge.Proofs.Merge.Resolved
import IssueMerge.Proofs.Merge.Run
import IssueMerge.Proofs.Rebuild.Markers
import IssueMerge.Proofs.Text.Utf8

/-!
Resolving a file a second time. Markers that belong to no conflict pass through a rebuild, so one that
opens and was never closed may be closed in the new file by one that closed nothing in the old.
Without such a pair the new file has no conflicts and is left alone. The text of a rebuilt file is
read back as the lines it was put together from, so what the layout says of those lines holds of the
file.
-/

namespace IssueMerge

open Outcome

/-- The scan of lines that can be read gets through, and it finds nothing exactly when no two of the
lines open and close a conflict. -/
theorem Region.ofLines_pairwise {lines : List Text} (h : ∀ line ∈ lines, Legible line) :
    ∃ regions, Region.ofLines lines = .ok regions ∧ (regions = [] ↔ lines.Pairwise Apart) := by
  have hregions := Region.ofLines_eq h
  exact ⟨_, hregions,
    (Region.eq_nil_of_ofLines hregions).trans (Layout.ofLines_no_conflict lines)⟩

namespace Merge.Resolves

variable {source : IdSource} {lines : List Text} {regions : List Region} {records : List Record}
  {plan : ResolutionPlan} {final : Rebuild}
  (h : Resolves source lines regions records plan final)

include h

theorem legible_output : ∀ line ∈ final.output, Legible line := by
  rw [h.output_eq]
  intro line hline
  obtain ⟨p, hp, rfl⟩ := List.mem_map.mp hline
  exact Origin.legible_emit (h.legible p.2 (ResolutionPlan.stays hp).mem) plan p.1

theorem lineFeed_notMem_output (hlines : ∀ line ∈ lines, CodePoint.lineFeed ∉ line) :
    ∀ line ∈ final.output, CodePoint.lineFeed ∉ line := by
  rw [h.output_eq]
  intro line hline
  obtain ⟨p, hp, rfl⟩ := List.mem_map.mp hline
  exact Origin.lineFeed_notMem_emit (hlines p.2 (ResolutionPlan.stays hp).mem) plan p.1

theorem pairwise_output : final.output.Pairwise Apart ↔ (Layout.ofLines lines).StaysResolved := by
  rw [h.output_eq]
  exact Layout.pairwise_emitted plan _ (Layout.formed_ofLines lines)

/-- What the scan finds in the text of the new file. -/
theorem regions_output (hlines : ∀ line ∈ lines, CodePoint.lineFeed ∉ line) :
    ∃ found, Region.ofLines (Text.unlines final.output).lines = .ok found ∧
      (found = [] ↔ (Layout.ofLines lines).StaysResolved) := by
  by_cases hempty : final.output = []
  · -- a file without a line is read as one empty line
    have hstays := h.pairwise_output
    rw [hempty] at hstays ⊢
    exact ⟨[], rfl, fun _ => hstays.mp .nil, fun _ => rfl⟩
  · rw [Text.lines_unlines hempty (h.lineFeed_notMem_output hlines), ← h.pairwise_output]
    exact Region.ofLines_pairwise h.legible_output

end Merge.Resolves

/-- A file that was written with its conflicts resolved is scanned without a failure, and has no
conflict exactly when no closing marker outside all conflicts stood behind a conflict without one.
Then resolving it again, with whatever source, asks nothing, finds nothing and leaves the disk as it
is. -/
theorem resolve_stable {path : Path} {options : MergeOptions (StateM MemoryDisk)}
    {d d' : MemoryDisk} {attempt : Attempt MergeReport} {report : MergeReport}
    (hwrite : options.write = Store.writeInPlace ∨ options.write = Store.writeAtomic)
    (h : resolveConflicts path options d = (attempt, d'))
    (hreport : attempt.result = .ok report) (hwritten : report.written = true) :
    ∃ lines, d.Holds path lines ∧
      (∃ regions, (detectConflicts (m := StateM MemoryDisk) path).run d' = (.ok regions, d') ∧
        (regions = [] ↔ (Layout.ofLines lines).StaysResolved)) ∧
      ((Layout.ofLines lines).StaysResolved → ∀ again : MergeOptions (StateM MemoryDisk),
        ∃ report', resolveConflicts path again d' = ({ result := .ok report' }, d') ∧
          report'.merge.hasConflicts = false ∧ report'.written = false) := by
  obtain ⟨⟨e, he⟩, _⟩ | ⟨lines, merge, hlines, hmerge, hcases⟩ :=
    resolveConflicts_run MemoryDisk.follows h
  · rw [hreport] at he
    cases he
  rcases hcases with ⟨_, hresult, _⟩ | ⟨hregions, _, s₁, r, hview, hrun, hok, herror⟩
  · rw [hreport] at hresult
    cases hresult
    cases hwritten
  · have hr : r = .ok () := by
      apply Classical.byContradiction
      intro hne
      obtain ⟨e, he⟩ := herror hne
      rw [hreport] at he
      cases he
    subst hr
    obtain ⟨bytes, hbytes, hread⟩ := Store.read_of_write MemoryDisk.follows hwrite hrun
    have hholds : d'.Holds path merge.content.lines :=
      ⟨bytes, merge.content, hread, Utf8.decode_encode hbytes, rfl⟩
    obtain ⟨records, final, hresolves, houtput⟩ := Merge.resolves_of_ofLines hmerge hregions
    have hfeeds : ∀ line ∈ lines, CodePoint.lineFeed ∉ line := by
      obtain ⟨_, content, _, _, rfl⟩ := hlines
      exact fun line hline => Text.lineFeed_notMem_lines hline
    obtain ⟨found, hfound, hiff⟩ := hresolves.regions_output hfeeds
    rw [← houtput] at hfound
    refine ⟨lines, hlines, ⟨found, ?_, hiff⟩, fun hstays again => ?_⟩
    · rw [detectConflicts_run hholds]
      exact congrArg (fun r => (Except.mapError MergeError.numeral r, d')) hfound
    · rw [hiff.mpr hstays] at hfound
      exact ⟨_, resolveConflicts_of_nil hholds hfound again, rfl, rfl⟩

def plainOptions : MergeOptions (StateM MemoryDisk) where
  source := some countingSource
  write := Store.writeInPlace

theorem resolve_stable_collidingLines : ∃ attempt d' report,
    resolveConflicts storePath plainOptions (storeDisk collidingLines) = (attempt, d') ∧
      attempt.result = .ok report ∧ report.written = true ∧
      ∀ again : MergeOptions (StateM MemoryDisk),
        ∃ report', resolveConflicts storePath again d' = ({ result := .ok report' }, d') ∧
          report'.merge.hasConflicts = false ∧ report'.written = false := by
  have hwritten : (resolveConflicts storePath plainOptions
      (storeDisk collidingLines)).1.result.map (·.written) = .ok true := by decide +kernel
  have hstays : ((Store.readLines (m := StateM MemoryDisk) storePath).run
      (storeDisk collidingLines)).1.map (fun lines => decide (Layout.ofLines lines).StaysResolved) =
        .ok true := by decide +kernel
  rcases hrun : resolveConflicts storePath plainOptions (storeDisk collidingLines) with
    ⟨attempt, d'⟩
  rw [hrun] at hwritten
  obtain ⟨report, hreport, hreported⟩ := map_eq_ok.mp hwritten
  obtain ⟨lines, hlines, _, hagain⟩ := resolve_stable (.inl rfl) hrun hreport hreported
  rw [Store.readLines_of_holds hlines] at hstays
  exact ⟨attempt, d', report, rfl, hreport, hreported,
    hagain (of_decide_eq_true (Except.ok.inj hstays))⟩

/-- A conflict that another opening marker cuts off, with its closing marker behind the other one. -/
def nestedLines : List Text :=
  ["<<<<<<< a", "<<<<<<< b", ">>>>>>> b", ">>>>>>> a"]

/-- The lines that are left when the inner conflict is resolved are a conflict. -/
theorem conflict_after_nestedLines : ∃ attempt d' report regions,
    resolveConflicts storePath plainOptions (storeDisk nestedLines) = (attempt, d') ∧
      attempt.result = .ok report ∧ report.written = true ∧
      ((detectConflicts (m := StateM MemoryDisk) storePath).run d').1 = .ok regions ∧
      regions ≠ [] ∧
      (resolveConflicts storePath plainOptions d').1.result.map (·.merge.hasConflicts) =
        .ok true := by
  have hwritten : (resolveConflicts storePath plainOptions
      (storeDisk nestedLines)).1.result.map (·.written) = .ok true := by decide +kernel
  have hfound : ((detectConflicts (m := StateM MemoryDisk) storePath).run
      (resolveConflicts storePath plainOptions (storeDisk nestedLines)).2).1.map List.length =
        .ok 1 := by decide +kernel
  have hagain : (resolveConflicts storePath plainOptions
      (resolveConflicts storePath plainOptions (storeDisk nestedLines)).2).1.result.map
        (·.merge.hasConflicts) = .ok true := by decide +kernel
  rcases hrun : resolveConflicts storePath plainOptions (storeDisk nestedLines) with
    ⟨attempt, d'⟩
  rw [hrun] at hwritten hfound hagain
  obtain ⟨report, hreport, hreported⟩ := map_eq_ok.mp hwritten
  obtain ⟨regions, hregions, hlength⟩ := map_eq_ok.mp hfound
  refine ⟨attempt, d', report, regions, rfl, hreport, hreported, hregions, ?_, hagain⟩
  rintro rfl
  cases hlength

end IssueMerge
