import IssueMerge.Proofs.Record.Written

/-!
The schema of records. An object is read as a record exactly when it follows the schema, and what is
written for the record is the object it was read from. Nothing is said here of how records print.
-/

namespace IssueMerge

open Json Outcome

namespace Json

/-- A field that is absent, `null` or a text. -/
def OptionalText (value : Option Json) : Prop :=
  value = none ∨ value = some .null ∨ ∃ s, value = some (.str s)

theorem optionalText_iff {value : Option Json} :
    OptionalText value ↔ ∃ s, optionalText? value = some s := by
  cases value with
  | none => simp [OptionalText, optionalText?]
  | some v => cases v <;> simp [OptionalText, optionalText?]

/-- A text that was read from a field is put over it without a change. -/
theorem putText_of_optionalText {name value : Text} {fields : Fields}
    (h : optionalText? (field? name fields) = some value) : putText name value fields = fields := by
  simp only [putText]
  split
  · next hput =>
    cases hfield : field? name fields with
    | none =>
        rw [hfield] at h hput
        cases h
        exact absurd hput (by simp)
    | some v =>
        rw [hfield] at h hput
        cases v with
        | null =>
            cases h
            exact absurd hput (by simp [isNull])
        | str s =>
            cases h
            exact setField_of_field? hfield
        | bool _ | int _ | float _ | arr _ | obj _ => cases h
  · rfl

theorem putTexts_of_optionalText {texts : List (Text × Text)} {fields : Fields}
    (h : ∀ p ∈ texts, optionalText? (field? p.1 fields) = some p.2) :
    putTexts texts fields = fields := by
  induction texts with
  | nil => rfl
  | cons p texts ih =>
      obtain ⟨hp, hrest⟩ := List.forall_mem_cons.mp h
      rw [putTexts, List.foldl_cons, putText_of_optionalText hp]
      exact ih hrest

end Json

namespace Edge

/-- An edge is an object whose relation may be absent or `null`. It is said in the field
`relation_type` only where there is no field `type`. -/
def Schema : Json → Prop
  | .obj fields =>
    OptionalText
      (if hasField "type" fields then field? "type" fields else field? "relation_type" fields)
  | _ => False

theorem relationIn_eq (fields : Fields) : relationIn fields =
    if hasField "type" fields then field? "type" fields else field? "relation_type" fields := by
  cases htype : field? "type" fields <;> simp [relationIn, hasField, htype]

theorem field?_relationName (fields : Fields) :
    field? (relationName fields) fields = relationIn fields := by
  cases htype : field? "type" fields with
  | some v => simp [relationName, relationIn, hasField, htype]
  | none =>
      cases hrelation : field? "relation_type" fields <;>
        simp [relationName, relationIn, hasField, htype, hrelation]

theorem exists_ofJson_iff {v : Json} : (∃ e, ofJson v = .ok e) ↔ Schema v := by
  cases v with
  | obj fields =>
      rw [ofJson_obj, Schema, ← relationIn_eq, optionalText_iff]
      cases optionalText? (relationIn fields) <;> simp
  | null | bool _ | int _ | float _ | str _ | arr _ => simp [ofJson, Schema]

/-- What is written for an edge whose relation is the one in its fields: only its target can differ
from what it was read from. -/
theorem toFields_of_relationIn {e : Edge} (h : optionalText? (relationIn e.raw) = some e.relation) :
    e.toFields =
      if e.target ≠ [] then setField "depends_on_id" (.str e.target) e.raw else e.raw := by
  simp only [toFields]
  refine putText_of_optionalText ?_
  rw [field?_relationName]
  split
  · rw [relationIn, field?_setField_ne (by decide), field?_setField_ne (by decide)]
    exact h
  · exact h

theorem toFields_of_ofJson {v : Json} {e : Edge} (h : ofJson v = .ok e) : .obj e.toFields = v := by
  obtain ⟨rfl, htarget, hrelation⟩ := ofJson_eq_ok h
  rw [toFields_of_relationIn hrelation]
  split
  · next hne =>
    have hfield : field? "depends_on_id" e.raw = some (.str e.target) := by
      rw [htarget] at hne ⊢
      simp only [targetIn] at hne ⊢
      split
      · next s hs => exact hs
      · next hother =>
        split at hne
        · next s hs => exact absurd hs (hother s)
        · exact absurd rfl hne
    rw [setField_of_field? hfield]
  · rfl

end Edge

namespace Record

/-- What the fields of an object must be like to be those of a record. -/
structure Schema (fields : Fields) : Prop where
  id : ∃ s, field? "id" fields = some (.str s) ∧ s ≠ []
  texts : ∀ name ∈ textNames, OptionalText (field? name fields)
  dependencies : field? "dependencies" fields = none ∨ field? "dependencies" fields = some .null ∨
    ∃ items, field? "dependencies" fields = some (.arr items) ∧ ∀ v ∈ items, Edge.Schema v

/-- The fields with an empty list where the dependencies are `null`. -/
def listed (fields : Fields) : Fields :=
  match field? "dependencies" fields with
  | some .null => setField "dependencies" (.arr []) fields
  | _ => fields

theorem exists_mapM_iff {items : List Json} :
    (∃ edges, items.mapM Edge.ofJson = .ok edges) ↔ ∀ v ∈ items, Edge.Schema v := by
  induction items with
  | nil => exact ⟨fun _ _ hv => absurd hv List.not_mem_nil, fun _ => ⟨[], rfl⟩⟩
  | cons v items ih =>
      rw [List.forall_mem_cons, ← ih, ← Edge.exists_ofJson_iff, List.mapM_cons]
      constructor
      · rintro ⟨edges, h⟩
        obtain ⟨e, he, h⟩ := bind_eq_ok.mp h
        obtain ⟨rest, hrest, _⟩ := bind_eq_ok.mp h
        exact ⟨⟨e, he⟩, rest, hrest⟩
      · rintro ⟨⟨e, he⟩, rest, hrest⟩
        exact ⟨e :: rest, bind_eq_ok.mpr ⟨e, he, bind_eq_ok.mpr ⟨rest, hrest, rfl⟩⟩⟩

theorem exists_readEdges_iff {id : Text} {fields : Fields} :
    (∃ edges, readEdges id fields = .ok edges) ↔
      (field? "dependencies" fields = none ∨ field? "dependencies" fields = some .null ∨
        ∃ items, field? "dependencies" fields = some (.arr items) ∧
          ∀ v ∈ items, Edge.Schema v) := by
  simp only [readEdges]
  cases field? "dependencies" fields with
  | none => simp
  | some v =>
      cases v with
      | arr items => simpa using exists_mapM_iff
      | null | bool _ | int _ | float _ | str _ | obj _ => simp

/-- The text that a record has where a field may be absent or `null`. -/
def textIn (name : Text) (fields : Fields) : Text :=
  (optionalText? (field? name fields)).getD []

theorem exists_ofJson_iff {fields : Fields} :
    (∃ r, ofJson (.obj fields) = .ok r) ↔ Schema fields := by
  constructor
  · rintro ⟨r, h⟩
    obtain ⟨hraw, hid, htexts, hedges⟩ := ofJson_eq_ok.mp h
    cases hraw
    refine ⟨⟨r.id, readId_eq_ok.mp hid⟩, ?_, exists_readEdges_iff.mp ⟨r.edges, hedges⟩⟩
    intro name hname
    rw [← names_texts r] at hname
    obtain ⟨p, hp, rfl⟩ := List.mem_map.mp hname
    exact optionalText_iff.mpr ⟨p.2, htexts p hp⟩
  · intro h
    obtain ⟨id, hid⟩ := h.id
    obtain ⟨edges, hedges⟩ : ∃ edges, readEdges id fields = .ok edges :=
      exists_readEdges_iff.mpr h.dependencies
    let r : Record := {
      id, edges, raw := fields
      title := textIn "title" fields
      description := textIn (Prose.name .description) fields
      design := textIn (Prose.name .design) fields
      acceptanceCriteria := textIn (Prose.name .acceptanceCriteria) fields
      notes := textIn (Prose.name .notes) fields }
    have htextIn : ∀ p ∈ r.texts, p.2 = textIn p.1 fields := by
      simp [r, texts, Prose.all, prose]
    refine ⟨r, ofJson_eq_ok.mpr ⟨rfl, readId_eq_ok.mpr hid, ?_, hedges⟩⟩
    intro p hp
    have hname : p.1 ∈ textNames := List.mem_map_of_mem hp
    obtain ⟨s, hs⟩ := optionalText_iff.mp (h.texts p.1 hname)
    rw [htextIn p hp, textIn, show field? p.1 r.raw = field? p.1 fields from rfl, hs]
    rfl

theorem map_toFields_of_mapM {items : List Json} {edges : List Edge}
    (h : items.mapM Edge.ofJson = .ok edges) :
    (edges.map fun e => Json.obj e.toFields) = items := by
  induction items generalizing edges with
  | nil =>
      cases h
      rfl
  | cons v items ih =>
      rw [List.mapM_cons] at h
      obtain ⟨e, he, h⟩ := bind_eq_ok.mp h
      obtain ⟨rest, hrest, h⟩ := bind_eq_ok.mp h
      cases h
      rw [List.map_cons, Edge.toFields_of_ofJson he, ih hrest]

theorem putEdges_of_readEdges {id : Text} {fields : Fields} {edges : List Edge}
    (h : readEdges id fields = .ok edges) : putEdges edges fields = listed fields := by
  cases hfield : field? "dependencies" fields with
  | none =>
      simp only [readEdges, hfield] at h
      cases h
      simp [putEdges, listed, hasField, hfield]
  | some v =>
      simp only [readEdges, hfield] at h
      cases v with
      | null =>
          cases h
          simp [putEdges, listed, hasField, hfield]
      | arr items =>
          have hitems := map_toFields_of_mapM h
          simp [putEdges, listed, hasField, hfield, hitems, setField_of_field? hfield]
      | bool _ | int _ | float _ | str _ | obj _ => cases h

/-- What is written for a record is what it was read from. -/
theorem toFields_of_ofJson {fields : Fields} {r : Record} (h : ofJson (.obj fields) = .ok r) :
    r.toFields = listed fields := by
  obtain ⟨hraw, hid, htexts, hedges⟩ := ofJson_eq_ok.mp h
  cases hraw
  rw [toFields_eq, setField_of_field? (readId_eq_ok.mp hid).1, putTexts_of_optionalText htexts,
    putEdges_of_readEdges hedges]

theorem names_listed (fields : Fields) : names (listed fields) = names fields := by
  simp only [listed]
  split
  · next hnull => rw [names_setField, if_pos (mem_names_of_field? hnull)]
  · rfl

end Record

/-- An object that follows the schema is read as a record, for which it is written again, with the
same fields in the same order, but for an empty list where its dependencies were `null`. Any other
object is refused. -/
theorem schema_exact (fields : Fields) :
    (Record.Schema fields → ∃ r, Record.ofJson (.obj fields) = .ok r ∧
      r.toFields = Record.listed fields ∧ names r.toFields = names fields) ∧
    (¬ Record.Schema fields → ∃ e, Record.ofJson (.obj fields) = .error e) := by
  constructor
  · intro h
    obtain ⟨r, hr⟩ := Record.exists_ofJson_iff.mpr h
    have hfields := Record.toFields_of_ofJson hr
    exact ⟨r, hr, hfields, by rw [hfields, Record.names_listed]⟩
  · intro h
    cases hread : Record.ofJson (.obj fields) with
    | error e => exact ⟨e, rfl⟩
    | ok r => exact absurd (Record.exists_ofJson_iff.mp ⟨r, hread⟩) h

/-- A record with fields that it does not know, with `null` and empty texts, and with edges that say
their relation in either field or not at all and lead nowhere. -/
def sparseFields : Fields :=
  [("priority", .int 1), ("id", .str "bd-1"), ("title", .null), ("notes", .str []),
    ("dependencies", .arr [.obj [("relation_type", .str "blocks"), ("by", .null)],
      .obj [("type", .null), ("relation_type", .int 3), ("depends_on_id", .int 7)], .obj []])]

/-- An edge whose relation is no text, although there is one in the field that does not count. -/
def misusedFields : Fields :=
  [("id", .str "bd-1"),
    ("dependencies", .arr [.obj [("type", .int 1), ("relation_type", .str "blocks")]])]

theorem schema_exact_sparseFields :
    (Record.Schema sparseFields ∧ ∃ r, Record.ofJson (.obj sparseFields) = .ok r ∧
      r.toFields = sparseFields) ∧
    ¬ Record.Schema misusedFields ∧ ∃ e, Record.ofJson (.obj misusedFields) = .error e := by
  have hschema : Record.Schema sparseFields := Record.exists_ofJson_iff.mp ⟨_, rfl⟩
  have hrefused : ¬ Record.Schema misusedFields := by
    intro h
    obtain ⟨r, hr⟩ := Record.exists_ofJson_iff.mpr h
    have herror : Record.ofJson (.obj misusedFields) = .error .relationNotText := rfl
    rw [herror] at hr
    cases hr
  obtain ⟨r, hr, hfields, _⟩ := (schema_exact sparseFields).1 hschema
  exact ⟨⟨hschema, r, hr, hfields⟩, hrefused, (schema_exact misusedFields).2 hrefused⟩

end IssueMerge
