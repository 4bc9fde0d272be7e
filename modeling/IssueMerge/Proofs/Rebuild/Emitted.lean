import IssueMerge.Proofs.Rebuild.Kept
import IssueMerge.Proofs.Record.RoundTrip

/-!
The records on the lines that are emitted. A record is renamed if it comes with a remap, and its
references are rewritten by the table for the place it comes from. What is emitted for a record reads
as that record.
-/

namespace IssueMerge

namespace Origin

/-- The id that a record from here gets in place of its own. -/
def newId? : Origin → Option Text
  | base r => if r.isRemap then some r.newId else none
  | outside | unclosed | head => none

def table (plan : ResolutionPlan) : Origin → RemapTable
  | outside | base _ => plan.table
  | head => plan.table.without plan.headIds
  | unclosed => []

def rename (origin : Origin) (r : Record) : Record :=
  match origin.newId? with
  | some newId => (r.renamed? newId).getD r
  | none => r

/-- The record as it is emitted, whether it changes or not. -/
def settle (plan : ResolutionPlan) (origin : Origin) (r : Record) : Record :=
  (origin.rename r).rewrite (origin.table plan)

variable {plan : ResolutionPlan} {origin : Origin} {r : Record} {line : Text}

theorem change?_getD (plan : ResolutionPlan) (origin : Origin) (r : Record) :
    (origin.change? plan r).getD r = origin.settle plan r := by
  cases origin with
  | outside => exact r.rewritten?_getD plan.table
  | head => exact r.rewritten?_getD (plan.table.without plan.headIds)
  | unclosed => exact r.rewrite_nil.symm
  | base resolution =>
      simp only [change?, settle, rename, newId?, table, Rebuild.resolved?]
      rw [← Record.rewritten?_getD]
      cases resolution.isRemap with
      | false => simp
      | true =>
          simp only [↓reduceIte]
          cases (((r.renamed? resolution.newId).getD r).rewritten? plan.table) with
          | none => simp
          | some changed => rfl

theorem id_settle (plan : ResolutionPlan) (origin : Origin) (r : Record) :
    (origin.settle plan r).id = origin.newId?.getD r.id := by
  simp only [settle, rename]
  cases origin.newId? with
  | none => rfl
  | some newId => exact r.id_rename newId

theorem content_settle (plan : ResolutionPlan) (origin : Origin) (r : Record) :
    (origin.settle plan r).title = r.title ∧ (origin.settle plan r).raw = r.raw ∧
      (origin.settle plan r).edges.map Edge.relation = r.edges.map Edge.relation := by
  simp only [settle, rename]
  cases origin.newId? with
  | none => exact ⟨rfl, rfl, r.relations_rewrite _⟩
  | some newId =>
      refine ⟨r.title_rename newId, r.raw_rename newId, ?_⟩
      rw [Record.relations_rewrite]
      exact r.relations_rename newId

theorem prose_settle (plan : ResolutionPlan) (origin : Origin) (r : Record) (p : Prose) :
    (origin.settle plan r).prose p = (origin.table plan).rewriteText (r.prose p) := by
  simp only [settle, rename, Record.prose_rewrite]
  cases origin.newId? with
  | none => rfl
  | some newId => rw [r.prose_rename newId p]

theorem targets_settle (plan : ResolutionPlan) (origin : Origin) (r : Record) :
    (origin.settle plan r).edges.map Edge.target =
      (r.edges.map Edge.target).map fun x => ((origin.table plan).find? x).getD x := by
  have hrename : (origin.rename r).edges.map Edge.target = r.edges.map Edge.target := by
    simp only [rename]
    cases origin.newId? with
    | none => rfl
    | some newId => exact r.targets_rename newId
  rw [settle, Record.targets_rewrite, ← hrename, List.map_map]
  rfl

theorem issueIds_settle (plan : ResolutionPlan) (origin : Origin) (r : Record) :
    (origin.settle plan r).edges.map (Json.field? "issue_id" ·.raw) = r.edges.map fun e =>
      if e.issueId = some r.id then some (.str (origin.newId?.getD r.id))
      else Json.field? "issue_id" e.raw := by
  rw [settle, Record.issueIds_rewrite, rename]
  cases origin.newId? with
  | some newId => exact r.issueIds_rename newId
  | none =>
      refine List.map_congr_left fun e _ => ?_
      split
      · next hid => exact Edge.issueId_eq_some.mp hid
      · rfl

/-- No empty id comes from here. -/
structure Proper (plan : ResolutionPlan) (origin : Origin) : Prop where
  table : ∀ p ∈ origin.table plan, p.2 ≠ []
  newId : ∀ newId, origin.newId? = some newId → newId ≠ []

theorem Proper.faithful (h : origin.Proper plan) (hr : r.Faithful) :
    (origin.settle plan r).Faithful := by
  simp only [settle, rename]
  cases hnew : origin.newId? with
  | none => exact hr.rewrite h.table
  | some newId => exact (hr.rename (h.newId newId hnew)).rewrite h.table

theorem Proper.sound (h : origin.Proper plan) (hr : r.Sound) :
    (origin.settle plan r).Sound := by
  simp only [settle, rename]
  cases hnew : origin.newId? with
  | none => exact hr.rewrite h.table
  | some newId => exact (hr.rename (h.newId newId hnew)).rewrite h.table

theorem emit_of_some (h : Record.on? line = some r) (plan : ResolutionPlan) (origin : Origin) :
    (origin.emit plan line = line ∧ origin.settle plan r = r) ∨
      ∃ ending : Text, (∀ x ∈ ending, x.isBlank = true) ∧
        origin.emit plan line = (origin.settle plan r).toLine ++ ending := by
  have hsettle := change?_getD plan origin r
  simp only [emit, h, Option.bind_some]
  cases hchange : origin.change? plan r with
  | none =>
      rw [hchange] at hsettle
      exact .inl ⟨rfl, hsettle.symm⟩
  | some changed =>
      rw [hchange, Option.getD_some] at hsettle
      refine .inr ⟨if line.endsWithReturn then [.carriageReturn] else [], ?_,
        by rw [← hsettle]; rfl⟩
      split
      · decide
      · exact fun x hx => absurd hx List.not_mem_nil

theorem on?_emit (h : origin.Proper plan) (hon : Record.on? line = some r) (hr : r.Sound) :
    ∃ r', Record.on? (origin.emit plan line) = some r' ∧ (origin.settle plan r).Alike r' := by
  cases emit_of_some hon plan origin with
  | inl hfound =>
      obtain ⟨hline, hsettle⟩ := hfound
      rw [hline, hsettle]
      exact ⟨r, hon, .refl r⟩
  | inr hfound =>
      obtain ⟨ending, hending, hline⟩ := hfound
      rw [hline]
      exact ⟨_, Record.on?_of_ofLine? (Record.ofLine?_toLine (h.sound hr) hending),
        Record.alike_written _⟩

end Origin

/-- The line holds the record: it is read from it, or the line is an object that reads as the record
with blanks behind it. -/
def Record.StandsOn (r : Record) (line : Text) : Prop :=
  Record.on? line = some r ∨ ∃ (fields : Json.Fields) (ending : Text),
    line = Json.compact (.obj fields) ++ ending ∧ (∀ c ∈ ending, c.isBlank = true) ∧
      Record.ofJson (.obj fields) = .ok r

namespace Origin

variable {plan : ResolutionPlan} {origin : Origin} {r : Record} {line : Text}

/-- A record is emitted as an object that reads as it, whatever numbers it carries along. -/
theorem standsOn_emit (h : origin.Proper plan) (hon : Record.on? line = some r) :
    ∃ r' : Record, r'.StandsOn (origin.emit plan line) ∧ (origin.settle plan r).Alike r' := by
  cases emit_of_some hon plan origin with
  | inl hfound =>
      obtain ⟨hline, hsettle⟩ := hfound
      rw [hline, hsettle]
      exact ⟨r, .inl hon, .refl r⟩
  | inr hfound =>
      obtain ⟨ending, hending, hline⟩ := hfound
      have hfaithful := Record.faithful_of_ofLine? (Record.on?_eq_some.mp hon)
      rw [hline]
      exact ⟨_, .inr ⟨_, ending, rfl, hending, Record.ofJson_toFields (h.faithful hfaithful)⟩,
        Record.alike_written _⟩

end Origin

end IssueMerge
