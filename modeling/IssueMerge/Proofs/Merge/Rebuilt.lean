import IssueMerge.Proofs.Conflict.Division
import IssueMerge.Proofs.Rebuild.Lockstep
import IssueMerge.Proofs.Rebuild.Stretches

/-!
Files that were rebuilt from a plan for their own conflicts, whatever ids were reserved for it. That
the rebuild got through says that all lines it looks at can be read; the text of ancestors need not be
readable. The new file is put together from the stretches of the old one.
-/

namespace IssueMerge

/-- The lines of a file that stay when it is rebuilt from a plan, with the places they come from. -/
def ResolutionPlan.kept (plan : ResolutionPlan) (lines : List Text) : List (Origin × Text) :=
  Layout.kept (plan.onSide .base) (Layout.ofLines lines)

theorem ResolutionPlan.stays {plan : ResolutionPlan} {lines : List Text} {p : Origin × Text}
    (hp : p ∈ plan.kept lines) : Stays lines (plan.onSide .base) p := by
  have hstays := Layout.stays_of_mem_kept hp
  rw [Layout.flatMap_lines] at hstays
  exact hstays

namespace Merge

/-- Some lines are rebuilt from a plan for the conflicts in them. -/
structure Rebuilds (source : IdSource) (reserved lines : List Text) (regions : List Region)
    (plan : ResolutionPlan) (final : Rebuild) : Prop where
  scanned : Region.ofLines lines = .ok regions
  planned : (ResolutionPlan.resolve regions source reserved).plan = .ok plan
  rebuilt : plan.rebuild lines = .ok final

/-- The regions of some lines, a plan for them and the new file, if there are. -/
def rebuilt? (source : IdSource) (reserved lines : List Text) :
    Option (List Region × ResolutionPlan × Rebuild) := do
  let regions ← (Region.ofLines lines).toOption
  let plan ← (ResolutionPlan.resolve regions source reserved).plan.toOption
  let final ← (plan.rebuild lines).toOption
  some (regions, plan, final)

variable {source : IdSource} {reserved lines : List Text} {regions : List Region}
  {plan : ResolutionPlan} {final : Rebuild}

theorem rebuilds_of_rebuilt? (h : rebuilt? source reserved lines = some (regions, plan, final)) :
    Rebuilds source reserved lines regions plan final := by
  obtain ⟨regions', hregions, h⟩ := Option.bind_eq_some_iff.mp h
  obtain ⟨plan', hplan, h⟩ := Option.bind_eq_some_iff.mp h
  obtain ⟨final', hfinal, h⟩ := Option.bind_eq_some_iff.mp h
  cases h
  exact ⟨Outcome.toOption_eq_some.mp hregions, Outcome.toOption_eq_some.mp hplan,
    Outcome.toOption_eq_some.mp hfinal⟩

namespace Rebuilds

variable (h : Rebuilds source reserved lines regions plan final)

include h

theorem regions_eq : regions = Layout.regionsFrom 1 (Layout.ofLines lines) := by
  have hscanned := h.scanned
  rw [(ResolutionPlan.readable_of_rebuild h.rebuilt).regions_eq] at hscanned
  exact (Except.ok.inj hscanned).symm

theorem settles : plan.Settles source regions reserved :=
  ResolutionPlan.settles_of_resolve h.planned

theorem map_oldId : (plan.onSide .base).map Resolution.oldId = (Layout.ofLines lines).baseIds :=
  (ResolutionPlan.of_rebuild h.rebuilt).1

theorem output_eq : final.output = (plan.kept lines).map fun p => p.1.emit plan p.2 :=
  (ResolutionPlan.of_rebuild h.rebuilt).2.1

theorem heads_kept : ((recordsKept (plan.kept lines)).filter (·.1.isHead)).map Prod.snd =
    regions.flatMap Region.head := by
  rw [h.regions_eq]
  exact Layout.heads_recordsKept h.map_oldId 1

theorem bases_kept : (recordsKept (plan.kept lines)).filterMap
    (fun p => p.1.resolution?.map (·, p.2)) =
      (plan.onSide .base).zip (regions.flatMap Region.base) := by
  rw [h.regions_eq]
  exact Layout.bases_recordsKept h.map_oldId 1

/-- A record of the base side is resolved by an entry of the plan for its id. -/
theorem oldId_eq {r : Resolution} {line : Text} {record : Record}
    (hkept : (.base r, line) ∈ plan.kept lines) (hon : Record.on? line = some record) :
    r.oldId = record.id := by
  have hmap : (plan.onSide .base).map Resolution.oldId =
      (regions.flatMap Region.base).map Record.id := by
    rw [h.settles.map_oldId, List.map_flatMap]
    rfl
  have hmem : (Origin.base r, record) ∈ recordsKept (plan.kept lines) := by
    refine List.mem_filterMap.mpr ⟨_, hkept, ?_⟩
    rw [hon]
    rfl
  have hzip : (r, record) ∈ (plan.onSide .base).zip (regions.flatMap Region.base) := by
    rw [← h.bases_kept]
    exact List.mem_filterMap.mpr ⟨_, hmem, rfl⟩
  exact oldId_of_mem_zip hmap hzip

theorem output_eq_rebuiltFrom : final.output = (Layout.ofLines lines).rebuiltFrom plan 0 := by
  rw [(ResolutionPlan.of_rebuild h.rebuilt).2.1, ← Layout.emitted_eq_rebuiltFrom, List.drop_zero]

theorem le_length_onSide {front rest : Layout} {block : Block}
    (hlayout : Layout.ofLines lines = front ++ block :: rest) :
    front.baseIds.length + block.baseIds.length ≤ (plan.onSide .base).length := by
  have hlength := congrArg List.length h.map_oldId
  simp only [hlayout, List.length_map, Layout.baseIds, List.flatMap_append, List.flatMap_cons,
    List.length_append] at hlength
  simp only [Layout.baseIds]
  omega

theorem output_eq_lines (hnone : regions = []) : final.output = lines := by
  have hbases : (plan.onSide .base).map Resolution.oldId = [] := by
    rw [h.settles.map_oldId, hnone]
    rfl
  have htable : plan.table = [] := by
    rw [h.settles.table, List.map_eq_nil_iff.mp hbases]
    rfl
  rw [h.output_eq_rebuiltFrom, Layout.rebuiltFrom_of_table_eq_nil htable
    ((Region.eq_nil_of_ofLines h.scanned).mp hnone), Layout.flatMap_lines]

end Rebuilds

/-- The new file line by line. There is one way to divide the old file into stretches, and what stands
for them follows in their order: for a line outside conflicts this line, for a conflict with both
markers one line for each of its records, and for one without a closing marker its own lines. A line
with a record on it is the old one unless the record changes. -/
theorem rebuilt_by_stretches (h : Rebuilds source reserved lines regions plan final) :
    (∀ layout : Layout, layout.Divides lines ↔ layout = Layout.ofLines lines) ∧
      final.output = (Layout.ofLines lines).rebuiltFrom plan 0 ∧
      regions = Layout.regionsFrom 1 (Layout.ofLines lines) ∧
      (plan.onSide .base).map Resolution.oldId = (Layout.ofLines lines).baseIds ∧
      (∀ line, Record.on? line = none → Origin.outside.emit plan line = line) ∧
      (∀ line r, Record.on? line = some r →
        Record.Rendered line r (r.rewrite plan.table) (Origin.outside.emit plan line) ∧
        Record.Rendered line r (r.rewrite (plan.table.without plan.headIds))
          (Origin.head.emit plan line) ∧
        ∀ resolution, Record.Rendered line r
          ((if resolution.isRemap then (r.renamed? resolution.newId).getD r else r).rewrite
            plan.table) ((Origin.base resolution).emit plan line)) ∧
      (∀ (front : Layout) opening body closing rest,
        Layout.ofLines lines = front ++ .conflict opening body closing :: rest →
          ((Block.conflict opening body closing).rebuilt plan front.baseIds.length).length =
            (recordLines (headPart body)).length + (recordLines (basePart body)).length ∧
          ∀ line ∈ (Block.conflict opening body closing).rebuilt plan front.baseIds.length,
            LineKind.ofLine line = .content) ∧
      (regions = [] → final.output = lines) := by
  refine ⟨fun layout => Layout.divides_iff, h.output_eq_rebuiltFrom, h.regions_eq, h.map_oldId,
    fun line => Origin.emit_of_none plan _, ?_, ?_, h.output_eq_lines⟩
  · intro line r hon
    refine ⟨Origin.rendered_emit hon plan .outside, Origin.rendered_emit hon plan .head, ?_⟩
    intro resolution
    have hrendered := Origin.rendered_emit hon plan (.base resolution)
    simp only [Origin.settle, Origin.rename, Origin.newId?] at hrendered
    cases hremap : resolution.isRemap with
    | false =>
        simp only [hremap, Bool.false_eq_true, ↓reduceIte] at hrendered ⊢
        exact hrendered
    | true =>
        simp only [hremap, ↓reduceIte] at hrendered ⊢
        exact hrendered
  · intro front opening body closing rest hlayout
    exact ⟨Block.length_rebuilt (h.le_length_onSide hlayout),
      fun line hline => Block.kind_of_mem_rebuilt hline⟩

/-- Two conflicts with both markers, one that is cut off and one that is left open. On the base sides
one id of a head side and one id twice, and records that mention these everywhere. -/
def mixedLines : List Text :=
  ["<<<<<<< cut off",
    "\x7b\"id\":\"bd-7\",\"notes\":\"bd-1\"\x7d",
    "<<<<<<< ours",
    "\x7b\"id\":\"bd-1\",\"notes\":\"bd-2\"\x7d\r",
    "||||||| base",
    "\x7b\"id\":\"bd-1\"\x7d",
    "=======",
    "no record",
    "\x7b\"id\":\"bd-1\",\"notes\":\"not bd-12\"\x7d\r",
    "",
    ">>>>>>> theirs",
    "=======",
    "\x7b\"id\":\"bd-5\",\"notes\":\"see bd-1.\"\x7d\r",
    "<<<<<<< ours",
    "\x7b\"id\":\"bd-2\",\"notes\":\"bd-1, bd-5\"\x7d",
    "=======",
    "\x7b\"id\":\"bd-6\",\"notes\":\"bd-4\"\x7d",
    "\x7b\"id\":\"bd-5\",\"notes\":\"bd-2\"\x7d",
    "\x7b\"id\":\"bd-5\"\x7d",
    ">>>>>>> theirs",
    "<<<<<<< left open",
    "\x7b\"id\":\"bd-8\",\"notes\":\"bd-1\"\x7d"]

/-- These lines with the conflicts resolved that have both markers. -/
def unmixedLines : List Text :=
  ["<<<<<<< cut off",
    "\x7b\"id\":\"bd-7\",\"notes\":\"bd-1\"\x7d",
    "\x7b\"id\":\"bd-1\",\"notes\":\"bd-2\"\x7d\r",
    "\x7b\"id\":\"bd-3\",\"notes\":\"not bd-12\"\x7d\r",
    "=======",
    "\x7b\"id\":\"bd-5\",\"notes\":\"see bd-3.\"\x7d\r",
    "\x7b\"id\":\"bd-2\",\"notes\":\"bd-1, bd-4\"\x7d",
    "\x7b\"id\":\"bd-6\",\"notes\":\"bd-4\"\x7d",
    "\x7b\"id\":\"bd-5\",\"notes\":\"bd-2\"\x7d",
    "\x7b\"id\":\"bd-4\"\x7d",
    "<<<<<<< left open",
    "\x7b\"id\":\"bd-8\",\"notes\":\"bd-1\"\x7d"]

theorem rebuilt_by_stretches_mixedLines : ∃ regions plan final,
    Rebuilds countingSource ["bd-5"] mixedLines regions plan final ∧
      final.output = unmixedLines := by
  have hlines : ((rebuilt? countingSource ["bd-5"] mixedLines).map fun found =>
      (Layout.ofLines mixedLines).rebuiltFrom found.2.1 0) = some unmixedLines := by
    decide +kernel
  obtain ⟨⟨regions, plan, final⟩, hfound, hstretches⟩ := Option.map_eq_some_iff.mp hlines
  have h := rebuilds_of_rebuilt? hfound
  obtain ⟨_, houtput, _⟩ := rebuilt_by_stretches h
  refine ⟨regions, plan, final, h, ?_⟩
  rw [houtput]
  exact hstretches

end Merge

end IssueMerge
