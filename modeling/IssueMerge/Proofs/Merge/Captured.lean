import IssueMerge.Proofs.Issue.Inverse
import IssueMerge.Proofs.Merge.Targets
import IssueMerge.Proofs.Rebuild.Reread

/-!
Edges to ids that no record has. Such an edge stays as it is, but fresh ids are kept apart only from
the ids of records, so the id that it leads to may be given to a record. Numbers of any kind may be
among the fields of the records here.
-/

namespace IssueMerge

open Outcome

theorem NamespaceScan.source_nonempty (s : NamespaceScan) : s.source.Nonempty := by
  intro k id h
  exact IssueId.format_ne_nil (IssueId.format_eq_ok_iff.mpr (NamespaceScan.source_eq_ok.mp h).2)

namespace Merge

variable {source : IdSource} {lines : List Text} {regions : List Region} {records : List Record}
  {plan : ResolutionPlan} {final : Rebuild}

namespace Resolves

variable (h : Resolves source lines regions records plan final)

include h

theorem read_kept : Record.ofLines (Layout.withoutAncestors lines) =
    .ok ((recordsKept (plan.kept lines)).map Prod.snd) := by
  rw [h.read_subset (Layout.withoutAncestors_subset lines)]
  exact congrArg Except.ok
    (Layout.snd_recordsKept h.map_oldId (Layout.marked_ofLines lines)).symm

theorem read_nodes (hsource : source.Nonempty) : ∃ after,
    Record.ofLines final.output = .ok after ∧
      List.Forall₂ (fun p r => (p.1.settle plan p.2).SameNode r) (recordsKept (plan.kept lines))
        after :=
  h.read_emitted fun _ hp _ hr => Origin.sameNode_emit (h.proper hsource hp) hr

/-- A reference to the id of no record stays, wherever it comes from. -/
theorem find?_table_of_notMem (origin : Origin) {x : Text} (hx : x ∉ records.map Record.id) :
    ((origin.table plan).find? x).getD x = x := by
  cases hfind : (origin.table plan).find? x with
  | none => rfl
  | some y =>
      have hmem := origin.table_subset plan (RemapTable.mem_of_find? hfind)
      exact absurd (h.baseIds_subset (h.mem_of_table (List.mem_map_of_mem hmem))) hx

/-- An id that no record had is the id of a record of the new file only if a remap leads to it. -/
theorem mem_idsKept_iff {x : Text} (hx : x ∉ records.map Record.id) :
    x ∈ plan.idsKept lines ↔ x ∈ plan.remaps.map Resolution.newId := by
  constructor
  · intro hkept
    obtain ⟨⟨origin, record⟩, hp, rfl⟩ := List.mem_map.mp hkept
    obtain ⟨hrecord, hresolution⟩ := h.mem_records_of_kept hp
    cases hnew : origin.newId? with
    | none =>
        rw [hnew] at hx
        exact absurd (List.mem_map_of_mem hrecord) hx
    | some newId =>
        cases origin with
        | outside | unclosed | head => cases hnew
        | base r =>
            simp only [Origin.newId?] at hnew
            split at hnew
            · next hremap =>
              cases hnew
              rw [h.settles.remaps]
              exact List.mem_map_of_mem (List.mem_filter.mpr ⟨hresolution r rfl, hremap⟩)
            · cases hnew
  · intro hremap
    rw [h.settles.remaps] at hremap
    obtain ⟨r, hr, rfl⟩ := List.mem_map.mp hremap
    exact h.newId_mem_idsKept (List.mem_filter.mp hr).1

end Resolves

/-- An edge to an id that no record of the file has keeps its target, and leads to a record of the new
file exactly if a remap of the base side leads to that id. -/
theorem dangling_target_captured_iff {stem : Option Text}
    (h : Resolves { ids := records.map Record.id, stem : NamespaceScan }.source lines regions records
      plan final) :
    ∃ before after, Record.ofLines (Layout.withoutAncestors lines) = .ok before ∧
      Record.ofLines final.output = .ok after ∧
      List.Forall₂ (fun r r' => List.Forall₂ (fun e e' =>
        e.target ∉ records.map Record.id → e'.target = e.target ∧
          (e'.target ∈ after.map Record.id ↔ e.target ∈ plan.remaps.map Resolution.newId))
        r.edges r'.edges) before after := by
  have hsource := NamespaceScan.source_nonempty { ids := records.map Record.id, stem }
  obtain ⟨after, hafter, hforall⟩ := h.read_nodes hsource
  have hids : after.map Record.id = plan.idsKept lines := by
    have heq := hforall.imp fun p r hsame => (hsame.id.trans (p.1.id_settle plan p.2)).symm
    exact (List.forall₂_eq_eq_eq ▸ List.forall₂_map_right_iff.mpr
      (List.forall₂_map_left_iff.mpr heq)).symm
  refine ⟨_, after, h.read_kept, hafter, List.forall₂_map_left_iff.mpr (hforall.imp ?_)⟩
  intro p r hsame
  have htargets := hsame.targets.trans (p.1.targets_settle plan p.2)
  rw [List.map_map] at htargets
  refine (forall₂_of_map_eq htargets).imp ?_
  intro e e' htarget hdangling
  have hstays : e'.target = e.target :=
    htarget.trans (h.find?_table_of_notMem p.1 hdangling)
  rw [hstays, hids]
  exact ⟨rfl, h.mem_idsKept_iff hdangling⟩

/-- Two versions of an issue; the one on the head side refers to an issue that is not there. -/
def danglingLines : List Text :=
  ["<<<<<<< HEAD",
    "\x7b\"id\":\"bd-1\",\"dependencies\":[\x7b\"depends_on_id\":\"bd-2\"\x7d]\x7d",
    "=======",
    "\x7b\"id\":\"bd-1\"\x7d",
    ">>>>>>> feature",
    ""]

theorem dangling_target_captured_iff_danglingLines : ∃ regions records plan final,
    Resolves { ids := records.map Record.id, stem := none : NamespaceScan }.source danglingLines
        regions records plan final ∧
      ∃ before after, Record.ofLines (Layout.withoutAncestors danglingLines) = .ok before ∧
        Record.ofLines final.output = .ok after ∧
        List.Forall₂ (fun r r' => List.Forall₂ (fun e e' =>
          e.target ∉ records.map Record.id → e'.target = e.target ∧
            (e'.target ∈ after.map Record.id ↔ e.target ∈ plan.remaps.map Resolution.newId))
          r.edges r'.edges) before after := by
  have hmerge : (ofLines danglingLines none none).result.map hasConflicts = .ok true := by
    decide +kernel
  obtain ⟨merge, records, final, _, h⟩ := resolves_of_hasConflicts hmerge
  exact ⟨merge.regions, records, merge.plan, final, h, dangling_target_captured_iff h⟩

/-- The edge leads to the version of the base side in the new file, which gets that id. -/
theorem captured_danglingLines : ∃ merge before after,
    (ofLines danglingLines none none).result = .ok merge ∧
      Record.ofLines danglingLines = .ok before ∧ Record.ofLines merge.lines = .ok after ∧
      ¬ List.Forall₂ (fun r r' => List.Forall₂ (fun e e' =>
        e.target ≠ [] → e.target ∉ before.map Record.id → e'.target ∉ after.map Record.id)
        r.edges r'.edges) before after := by
  have hbefore : (Record.ofLines danglingLines).map
      (·.map fun r => (r.id, r.edges.map Edge.target)) =
        .ok [("bd-1", ["bd-2"]), ("bd-1", [])] := by decide +kernel
  have hafter : (ofLines danglingLines none none).result.map (fun merge =>
      (Record.ofLines merge.lines).map (·.map fun r => (r.id, r.edges.map Edge.target))) =
        .ok (.ok [("bd-1", ["bd-2"]), ("bd-2", [])]) := by decide +kernel
  obtain ⟨before, hread, hbefore⟩ := map_eq_ok.mp hbefore
  obtain ⟨merge, hmerge, hafter⟩ := map_eq_ok.mp hafter
  obtain ⟨after, hread', hafter⟩ := map_eq_ok.mp hafter
  refine ⟨merge, before, after, hmerge, hread, hread', fun hforall => ?_⟩
  have hids := congrArg (List.map Prod.fst) hbefore
  have hids' := congrArg (List.map Prod.fst) hafter
  rw [List.map_map] at hids hids'
  have hdangling : ("bd-2" : Text) ∉ before.map Record.id := by
    rw [show before.map Record.id = ["bd-1", "bd-1"] from hids]
    decide
  have hcaptured : ("bd-2" : Text) ∈ after.map Record.id := by
    rw [show after.map Record.id = ["bd-1", "bd-2"] from hids']
    decide
  obtain ⟨r, rs, rfl, hr, _⟩ := List.map_eq_cons_iff.mp hbefore
  obtain ⟨r', rs', rfl, hr', _⟩ := List.map_eq_cons_iff.mp hafter
  obtain ⟨e, es, he, htarget, _⟩ := List.map_eq_cons_iff.mp (Prod.mk.inj hr).2
  obtain ⟨e', es', he', htarget', _⟩ := List.map_eq_cons_iff.mp (Prod.mk.inj hr').2
  have hedges := (List.forall₂_cons.mp hforall).1
  rw [he, he'] at hedges
  have hedge := (List.forall₂_cons.mp hedges).1
  rw [htarget, htarget'] at hedge
  exact hedge (by decide) hdangling hcaptured

end Merge

end IssueMerge
