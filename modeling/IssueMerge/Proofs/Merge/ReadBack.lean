import IssueMerge.Proofs.Merge.Atomic
import IssueMerge.Proofs.Merge.Stable

/-!
The lines that are written are the lines that are read. Only line feeds separate lines, so this rests
on no line of a new file holding one, whatever is escaped in its records and whatever other
characters end a line elsewhere. The operations of the disk may be refused; only a run that reports
that it has written is looked at.
-/

namespace IssueMerge

open Outcome

section

variable {σ : Type} [Disk (StateM σ)] {view : σ → MemoryDisk} {s s' : σ} {path : Path}
  {options : MergeOptions (StateM σ)} {attempt : Attempt MergeReport} {report : MergeReport}

/-- A run that has written resolved the conflicts of the lines in the file, and the file holds the new
text. -/
theorem resolveConflicts_written (hdisk : Disk.Follows view)
    (hwrite : options.write = Store.writeInPlace ∨ options.write = Store.writeAtomic)
    (h : resolveConflicts path options s = (attempt, s')) (hreport : attempt.result = .ok report)
    (hwritten : report.written = true) :
    ∃ lines, (view s).Holds path lines ∧ report.merge.regions ≠ [] ∧
      (Merge.ofLines lines options.source options.stem).result = .ok report.merge ∧
      (view s').Holds path report.merge.content.lines := by
  cases resolveConflicts_run hdisk h with
  | inl hfailed =>
      obtain ⟨⟨e, he⟩, _⟩ := hfailed
      rw [hreport] at he
      cases he
  | inr hrun =>
      obtain ⟨lines, merge, hlines, hmerge, hnothing | hwrites⟩ := hrun
      · rw [hnothing.2.1] at hreport
        cases hreport
        cases hwritten
      · obtain ⟨hregions, _, s₁, r, _, hrun, hok, herror⟩ := hwrites
        have hr : r = .ok () := by
          apply Classical.byContradiction
          intro hne
          obtain ⟨e, he⟩ := herror hne
          rw [hreport] at he
          cases he
        rw [hr] at hrun hok
        rw [hok rfl] at hreport
        cases hreport
        obtain ⟨bytes, hbytes, hread⟩ := Store.read_of_write hdisk hwrite hrun
        exact ⟨lines, hlines, hregions, hmerge,
          bytes, merge.content, hread, Utf8.decode_encode hbytes, rfl⟩

end

/-- The lines of a file with a text of these lines. There is no file without a line. -/
theorem Text.lines_unlines_eq {ls : List Text} (h : ∀ line ∈ ls, CodePoint.lineFeed ∉ line) :
    (Text.unlines ls).lines = if ls = [] then [[]] else ls := by
  split
  · next hempty =>
    rw [hempty]
    rfl
  · next hne => exact Text.lines_unlines hne h

/-- A file that was written with its conflicts resolved, in place or by the file beside it, is read as
the lines of the report, or as one empty line where there are none. No line of the report holds a
line feed. -/
theorem written_lines_read_back {path : Path} {options : MergeOptions (StateM UnreliableDisk)}
    {s s' : UnreliableDisk} {attempt : Attempt MergeReport} {report : MergeReport}
    (hwrite : options.write = Store.writeInPlace ∨ options.write = Store.writeAtomic)
    (h : resolveConflicts path options s = (attempt, s')) (hreport : attempt.result = .ok report)
    (hwritten : report.written = true) :
    (∀ line ∈ report.merge.lines, CodePoint.lineFeed ∉ line) ∧
      (Store.readLines (m := StateM MemoryDisk) path).run s'.disk =
        (.ok (if report.merge.lines = [] then [[]] else report.merge.lines), s'.disk) := by
  obtain ⟨lines, hlines, hregions, hmerge, hholds⟩ :=
    resolveConflicts_written UnreliableDisk.follows hwrite h hreport hwritten
  obtain ⟨records, final, hresolves, houtput⟩ := Merge.resolves_of_ofLines hmerge hregions
  have hfeeds : ∀ line ∈ lines, CodePoint.lineFeed ∉ line := by
    obtain ⟨_, content, _, _, rfl⟩ := hlines
    exact fun line hline => Text.lineFeed_notMem_lines hline
  have hnew : ∀ line ∈ report.merge.lines, CodePoint.lineFeed ∉ line := by
    rw [houtput]
    exact hresolves.lineFeed_notMem_output hfeeds
  refine ⟨hnew, ?_⟩
  rw [Merge.content, Text.lines_unlines_eq hnew] at hholds
  exact Store.readLines_of_holds hholds

/-- A conflict with escaped line feeds in a title and a name, a line separator that is none here, and
a carriage return at the end of a line. -/
def framedLines : List Text :=
  ["<<<<<<< ours\r",
    "\x7b\"id\":\"bd-1\"\x7d\r",
    "=======\r",
    "\x7b\"id\":\"bd-1\",\"title\":\"a\\nb\\u0085\u2028\",\"x\\n\":\"\\r\\n\"\x7d\r",
    ">>>>>>> theirs\r"]

theorem written_lines_read_back_framedLines : ∃ attempt s' report,
    resolveConflicts storePath atomicOptions (refusingDisk framedLines 9) = (attempt, s') ∧
      attempt.result = .ok report ∧ report.written = true ∧
      (Store.readLines (m := StateM MemoryDisk) storePath).run s'.disk =
        (.ok ["\x7b\"id\":\"bd-1\"\x7d\r",
          "\x7b\"id\":\"bd-3\",\"title\":\"a\\nb\u0085\u2028\",\"x\\n\":\"\\r\\n\"\x7d\r"], s'.disk) := by
  have hwritten : (resolveConflicts storePath atomicOptions
      (refusingDisk framedLines 9)).1.result.map (fun r => (r.written, r.merge.lines)) =
        .ok (true, ["\x7b\"id\":\"bd-1\"\x7d\r",
          "\x7b\"id\":\"bd-3\",\"title\":\"a\\nb\u0085\u2028\",\"x\\n\":\"\\r\\n\"\x7d\r"]) := by
    decide +kernel
  rcases hrun : resolveConflicts storePath atomicOptions (refusingDisk framedLines 9) with
    ⟨attempt, s'⟩
  rw [hrun] at hwritten
  obtain ⟨report, hreport, hreported⟩ := map_eq_ok.mp hwritten
  obtain ⟨hflag, hlines⟩ := Prod.mk.inj hreported
  obtain ⟨_, hread⟩ := written_lines_read_back (.inr rfl) hrun hreport hflag
  rw [hlines] at hread
  exact ⟨attempt, s', report, rfl, hreport, hflag, hread⟩

end IssueMerge
