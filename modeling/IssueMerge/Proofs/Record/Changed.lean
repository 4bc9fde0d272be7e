import IssueMerge.Proofs.Record.Written
import IssueMerge.Reference.Rewrite

/-!
What renaming a record and rewriting its references changes, and that the record as it is read again
has the same content.
-/

namespace IssueMerge

open Json

/-- Two records that differ at most in how known fields are written down. -/
structure Record.Alike (r r' : Record) : Prop where
  id : r'.id = r.id
  title : r'.title = r.title
  prose : ∀ p, r'.prose p = r.prose p
  targets : r'.edges.map Edge.target = r.edges.map Edge.target
  relations : r'.edges.map Edge.relation = r.edges.map Edge.relation
  issueIds : r'.edges.map (field? "issue_id" ·.raw) = r.edges.map (field? "issue_id" ·.raw)
  unknown : ∀ name ∉ Record.knownNames, field? name r'.raw = field? name r.raw

namespace RemapTable

theorem mem_of_find? {table : RemapTable} {id newId : Text} (h : table.find? id = some newId) :
    (id, newId) ∈ table := by
  obtain ⟨p, hp, rfl⟩ := Option.map_eq_some_iff.mp h
  have hid : p.1 = id := by simpa using List.find?_some hp
  rw [← hid]
  exact List.mem_of_find?_eq_some hp

theorem find?_ne_nil {table : RemapTable} (ht : ∀ p ∈ table, p.2 ≠ []) {id newId : Text}
    (h : table.find? id = some newId) : newId ≠ [] :=
  ht _ (mem_of_find? h)

theorem rewriteText_nil (text : Text) : rewriteText [] text = text := by
  simp [rewriteText]

theorem rewriteText_empty (table : RemapTable) : table.rewriteText [] = [] := by
  simp [rewriteText]

end RemapTable

namespace Edge

theorem Faithful.rewrite {e : Edge} (h : e.Faithful) {table : RemapTable}
    (ht : ∀ p ∈ table, p.2 ≠ []) : (table.rewriteEdge e).Faithful := by
  intro hempty
  simp only [RemapTable.rewriteEdge] at hempty ⊢
  cases hf : table.find? e.target with
  | none =>
      rw [hf] at hempty
      exact h hempty
  | some newId =>
      rw [hf] at hempty
      exact absurd hempty (table.find?_ne_nil ht hf)

theorem Faithful.rename {e : Edge} (h : e.Faithful) (oldId newId : Text) :
    (Record.renameEdge oldId newId e).Faithful := by
  simp only [Record.renameEdge]
  split
  · intro hempty
    rw [targetIn_congr (field?_setField_ne (by decide) _ _)]
    exact h hempty
  · exact h

theorem issueId_eq_some {e : Edge} {id : Text} :
    e.issueId = some id ↔ field? "issue_id" e.raw = some (.str id) := by
  simp only [issueId]
  split
  · next s hs => simp [hs]
  · next hne =>
    constructor
    · exact fun h => nomatch h
    · exact fun h => absurd h (hne id)

theorem issueId_renameEdge (oldId newId : Text) (e : Edge) :
    field? "issue_id" (Record.renameEdge oldId newId e).raw =
      if e.issueId = some oldId then some (.str newId) else field? "issue_id" e.raw := by
  simp only [Record.renameEdge]
  split
  · rw [field?_setField_self]
  · rfl

theorem renameEdge_self (id : Text) (e : Edge) : Record.renameEdge id id e = e := by
  simp only [Record.renameEdge]
  split
  · next h => rw [setField_of_field? (issueId_eq_some.mp h)]
  · rfl

end Edge

namespace Record

theorem Alike.refl (r : Record) : r.Alike r :=
  ⟨rfl, rfl, fun _ => rfl, rfl, rfl, rfl, fun _ _ => rfl⟩

theorem alike_written (r : Record) : r.Alike r.written := by
  refine ⟨rfl, rfl, ?_, ?_, ?_, ?_, fun name hname => field?_toFields hname r⟩
  · intro p
    cases p <;> rfl
  · exact List.map_map
  · exact List.map_map
  · rw [written, List.map_map]
    exact List.map_congr_left fun e _ => Edge.field?_toFields_ne (by decide)

/-- The record with its references rewritten, whether that changes any or not. -/
def rewrite (r : Record) (table : RemapTable) : Record :=
  { r.withProse (fun p => table.rewriteText (r.prose p)) with
    edges := r.edges.map table.rewriteEdge }

section

variable (r : Record) (table : RemapTable)

theorem prose_rewrite (p : Prose) : (r.rewrite table).prose p = table.rewriteText (r.prose p) := by
  cases p <;> rfl

theorem targets_rewrite : (r.rewrite table).edges.map Edge.target =
    r.edges.map fun e => (table.find? e.target).getD e.target :=
  List.map_map

theorem relations_rewrite : (r.rewrite table).edges.map Edge.relation =
    r.edges.map Edge.relation :=
  List.map_map

theorem issueIds_rewrite : (r.rewrite table).edges.map (field? "issue_id" ·.raw) =
    r.edges.map (field? "issue_id" ·.raw) :=
  List.map_map

theorem rewrite_eq_self
    (htargets : (r.edges.map table.rewriteEdge).map Edge.target = r.edges.map Edge.target)
    (hprose : ∀ p, table.rewriteText (r.prose p) = r.prose p) : r.rewrite table = r := by
  have hedges : r.edges.map table.rewriteEdge = r.edges := by
    rw [List.map_map] at htargets
    refine (List.map_congr_left ?_).trans (List.map_id' r.edges)
    intro e he
    have htarget := List.map_inj_left.mp htargets e he
    exact congrArg (fun target => { e with target }) htarget
  simp only [rewrite, hprose, hedges]
  rfl

theorem rewritten?_getD : (r.rewritten? table).getD r = r.rewrite table := by
  simp only [rewritten?]
  split
  · next h =>
    refine (r.rewrite_eq_self table h.1 ?_).symm
    intro p
    have hall := List.all_eq_true.mp h.2 p (by cases p <;> decide)
    exact of_decide_eq_true hall
  · rfl

end

theorem rewritten?_eq_none {r : Record} {table : RemapTable} :
    r.rewritten? table = none ↔ r.rewrite table = r := by
  constructor
  · intro h
    rw [← rewritten?_getD, h]
    rfl
  · intro h
    have hedges : r.edges.map table.rewriteEdge = r.edges := congrArg Record.edges h
    have hprose (p : Prose) : table.rewriteText (r.prose p) = r.prose p := by
      rw [← prose_rewrite, h]
    simp only [rewritten?, hedges, hprose, decide_true, List.all_eq_true, implies_true, and_self,
      ↓reduceIte]

theorem rewrite_nil (r : Record) : r.rewrite [] = r :=
  r.rewrite_eq_self [] (congrArg _ (List.map_id' r.edges)) fun p =>
    RemapTable.rewriteText_nil (r.prose p)

/-- The record under an id, whether that is another one or not. -/
def rename (r : Record) (newId : Text) : Record :=
  { r with id := newId, edges := r.edges.map (renameEdge r.id newId) }

section

variable (r : Record) (newId : Text)

theorem renamed?_getD : (r.renamed? newId).getD r = r.rename newId := by
  simp only [renamed?]
  split
  · next h =>
    have hedges : r.edges.map (renameEdge r.id r.id) = r.edges :=
      (List.map_congr_left fun e _ => Edge.renameEdge_self r.id e).trans (List.map_id' r.edges)
    simp only [Option.getD_none, rename, h, hedges]
  · rfl

theorem id_rename : ((r.renamed? newId).getD r).id = newId := by
  rw [renamed?_getD]
  rfl

theorem title_rename : ((r.renamed? newId).getD r).title = r.title := by
  rw [renamed?_getD]
  rfl

theorem raw_rename : ((r.renamed? newId).getD r).raw = r.raw := by
  rw [renamed?_getD]
  rfl

theorem prose_rename (p : Prose) : ((r.renamed? newId).getD r).prose p = r.prose p := by
  rw [renamed?_getD]
  cases p <;> rfl

theorem targets_rename : ((r.renamed? newId).getD r).edges.map Edge.target =
    r.edges.map Edge.target := by
  rw [renamed?_getD, rename, List.map_map]
  refine List.map_congr_left fun e _ => ?_
  simp only [Function.comp_apply, renameEdge]
  split <;> rfl

theorem relations_rename : ((r.renamed? newId).getD r).edges.map Edge.relation =
    r.edges.map Edge.relation := by
  rw [renamed?_getD, rename, List.map_map]
  refine List.map_congr_left fun e _ => ?_
  simp only [Function.comp_apply, renameEdge]
  split <;> rfl

theorem issueIds_rename : ((r.renamed? newId).getD r).edges.map (field? "issue_id" ·.raw) =
    r.edges.map fun e =>
      if e.issueId = some r.id then some (.str newId) else field? "issue_id" e.raw := by
  rw [renamed?_getD, rename, List.map_map]
  exact List.map_congr_left fun e _ => Edge.issueId_renameEdge r.id newId e

theorem mem_edges_rename {e : Edge} (h : e ∈ ((r.renamed? newId).getD r).edges) :
    ∃ d ∈ r.edges, e.raw = d.raw ∨ e.raw = setField "issue_id" (.str newId) d.raw := by
  rw [renamed?_getD] at h
  obtain ⟨d, hd, rfl⟩ := List.mem_map.mp h
  refine ⟨d, hd, ?_⟩
  simp only [renameEdge]
  split
  · exact .inr rfl
  · exact .inl rfl

end

theorem Faithful.rewrite {r : Record} (h : r.Faithful) {table : RemapTable}
    (ht : ∀ p ∈ table, p.2 ≠ []) : (r.rewrite table).Faithful := by
  refine ⟨h.id_ne_nil, ?_⟩
  intro e he
  obtain ⟨d, hd, rfl⟩ := List.mem_map.mp he
  exact (h.edges d hd).rewrite ht

theorem Faithful.rename {r : Record} (h : r.Faithful) {newId : Text} (hid : newId ≠ []) :
    ((r.renamed? newId).getD r).Faithful := by
  rw [renamed?_getD]
  refine ⟨hid, ?_⟩
  intro e he
  obtain ⟨d, hd, rfl⟩ := List.mem_map.mp he
  exact (h.edges d hd).rename r.id newId

end Record

end IssueMerge
