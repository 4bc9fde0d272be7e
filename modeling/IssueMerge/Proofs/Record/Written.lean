import IssueMerge.Issue.Record
import IssueMerge.Proofs.Json.Fields
import IssueMerge.Proofs.Outcome

/-!
The fields of a record read back as the record: its id, its texts and its edges come from the fields
they were put into, and all other fields are those the record was read from.
-/

namespace IssueMerge

open Json Outcome

namespace Json

/-- The text of a field that may be absent or `null`. -/
def optionalText? : Option Json → Option Text
  | none | some .null => some []
  | some (.str s) => some s
  | some _ => none

theorem field?_putText_ne {name other : Text} (h : other ≠ name) (value : Text) (fields : Fields) :
    field? other (putText name value fields) = field? other fields := by
  simp only [putText]
  split
  · exact field?_setField_ne h _ fields
  · rfl

/-- What a field holds after a text was put over what it held. -/
def textOver (value : Text) (old : Option Json) : Option Json :=
  if value ≠ [] ∨ old.any (!·.isNull) then some (.str value) else old

theorem field?_putText_self (name value : Text) (fields : Fields) :
    field? name (putText name value fields) = textOver value (field? name fields) := by
  simp only [putText, textOver]
  split
  · rw [field?_setField_self]
  · rfl

theorem optionalText_textOver (value : Text) (old : Option Json) :
    optionalText? (textOver value old) = some value := by
  simp only [textOver]
  split
  · rfl
  · next h =>
    simp only [ne_eq, not_or, Classical.not_not] at h
    obtain ⟨rfl, hnull⟩ := h
    cases old with
    | none => rfl
    | some v =>
        cases v with
        | null => rfl
        | _ => exact absurd (by simp [isNull]) hnull

theorem optionalText_putText (name value : Text) (fields : Fields) :
    optionalText? (field? name (putText name value fields)) = some value := by
  rw [field?_putText_self, optionalText_textOver]

theorem field?_of_putText_none {name value : Text} {fields : Fields}
    (h : field? name (putText name value fields) = none) : field? name fields = none := by
  simp only [putText] at h
  split at h
  · rw [field?_setField_self] at h
    cases h
  · exact h

theorem AllFields.putText {P : Json → Prop} {name value : Text} {fields : Fields}
    (h : AllFields P fields) (hv : P (.str value)) : AllFields P (putText name value fields) := by
  simp only [Json.putText]
  split
  · exact h.setField hv
  · exact h

def putTexts (texts : List (Text × Text)) (fields : Fields) : Fields :=
  texts.foldl (fun fields p => putText p.1 p.2 fields) fields

theorem field?_putTexts {name : Text} {texts : List (Text × Text)}
    (h : name ∉ texts.map Prod.fst) (fields : Fields) :
    field? name (putTexts texts fields) = field? name fields := by
  induction texts generalizing fields with
  | nil => rfl
  | cons p texts ih =>
      simp only [List.map_cons, List.mem_cons, not_or] at h
      have hrest := ih h.2 (putText p.1 p.2 fields)
      rw [field?_putText_ne h.1] at hrest
      exact hrest

theorem field?_putTexts_of_mem {name value : Text} {texts : List (Text × Text)}
    (hnodup : (texts.map Prod.fst).Nodup) (h : (name, value) ∈ texts) (fields : Fields) :
    field? name (putTexts texts fields) = textOver value (field? name fields) := by
  induction texts generalizing fields with
  | nil => exact absurd h List.not_mem_nil
  | cons p texts ih =>
      obtain ⟨hfirst, hnodup⟩ := List.nodup_cons.mp hnodup
      cases List.mem_cons.mp h with
      | inl heq =>
          subst heq
          exact (field?_putTexts hfirst _).trans (field?_putText_self name value fields)
      | inr h =>
          have hne : name ≠ p.1 := fun heq => hfirst (heq ▸ List.mem_map_of_mem h)
          have hrest := ih hnodup h (putText p.1 p.2 fields)
          rw [field?_putText_ne hne] at hrest
          exact hrest

theorem AllFields.putTexts {P : Json → Prop} (hP : ∀ s, P (.str s)) (texts : List (Text × Text))
    {fields : Fields} (h : AllFields P fields) : AllFields P (putTexts texts fields) := by
  induction texts generalizing fields with
  | nil => exact h
  | cons p texts ih => exact ih (h.putText (hP p.2))

end Json

namespace Edge

/-- The edge as it is read back from its fields. -/
def written (e : Edge) : Edge :=
  { e with raw := e.toFields }

def targetIn (fields : Fields) : Text :=
  match field? "depends_on_id" fields with
  | some (.str s) => s
  | _ => []

def relationIn (fields : Fields) : Option Json :=
  (field? "type" fields).or (field? "relation_type" fields)

/-- No target is hidden in the fields of an edge that names none. -/
def Faithful (e : Edge) : Prop :=
  e.target = [] → targetIn e.raw = []

theorem ofJson_obj (fields : Fields) : ofJson (.obj fields) =
    match optionalText? (relationIn fields) with
    | some relation => .ok ⟨targetIn fields, relation, fields⟩
    | none => .error .relationNotText := by
  simp only [ofJson, relationIn]
  generalize (field? "type" fields).or (field? "relation_type" fields) = v
  cases v with
  | none => rfl
  | some v => cases v <;> rfl

/-- An edge has the target, the relation and the fields it was read from. -/
theorem ofJson_eq_ok {v : Json} {e : Edge} (h : ofJson v = .ok e) :
    v = .obj e.raw ∧ e.target = targetIn e.raw ∧
      optionalText? (relationIn e.raw) = some e.relation := by
  cases v with
  | obj fields =>
      rw [ofJson_obj] at h
      split at h
      · next relation hr =>
        cases h
        exact ⟨rfl, rfl, hr⟩
      · cases h
  | null | bool _ | int _ | float _ | str _ | arr _ => cases h

theorem targetIn_congr {fields fields' : Fields}
    (h : field? "depends_on_id" fields = field? "depends_on_id" fields') :
    targetIn fields = targetIn fields' := by
  simp only [targetIn, h]

theorem field?_toFields_ne {e : Edge} {name : Text}
    (h : name ∉ ([("depends_on_id" : Text), "type", "relation_type"] : List Text)) :
    field? name e.toFields = field? name e.raw := by
  simp only [List.mem_cons, List.not_mem_nil, or_false, not_or] at h
  obtain ⟨htarget, htype, hrelation⟩ := h
  have hname : ∀ fields, name ≠ relationName fields := by
    intro fields
    simp only [relationName]
    split
    · exact hrelation
    · exact htype
  simp only [toFields]
  rw [field?_putText_ne (hname _)]
  split
  · exact field?_setField_ne htarget _ _
  · rfl

theorem targetIn_toFields {e : Edge} (h : e.Faithful) : targetIn e.toFields = e.target := by
  have hname : ∀ fields, ("depends_on_id" : Text) ≠ relationName fields := by
    intro fields
    simp only [relationName]
    split <;> decide
  simp only [toFields]
  rw [targetIn_congr (field?_putText_ne (hname _) _ _)]
  split
  · simp only [targetIn, field?_setField_self]
  · next hempty =>
    have htarget := Classical.not_not.mp hempty
    rw [h htarget, htarget]

theorem relationIn_putText (relation : Text) (fields : Fields) :
    optionalText? (relationIn (putText (relationName fields) relation fields)) =
      some relation := by
  have hput := optionalText_putText (relationName fields) relation fields
  by_cases h : hasField "relation_type" fields = true ∧ ¬ hasField "type" fields = true
  · have hname : relationName fields = "relation_type" := if_pos h
    have htype : field? "type" fields = none := by
      simpa [hasField] using h.2
    rw [hname] at hput ⊢
    rw [relationIn, field?_putText_ne (by decide), htype, Option.none_or, hput]
  · have hname : relationName fields = "type" := if_neg h
    rw [hname] at hput ⊢
    cases hf : field? "type" (putText "type" relation fields) with
    | some v =>
        rw [hf] at hput
        rw [relationIn, hf, Option.some_or, hput]
    | none =>
        have htype := field?_of_putText_none hf
        have hother : field? "relation_type" fields = none := by
          simpa [hasField, htype] using h
        rw [relationIn, hf, Option.none_or, field?_putText_ne (by decide), hother]
        rwa [hf] at hput

theorem ofJson_toFields {e : Edge} (h : e.Faithful) : ofJson (.obj e.toFields) = .ok e.written := by
  have hrelation := relationIn_putText e.relation
    (if e.target ≠ [] then setField "depends_on_id" (.str e.target) e.raw else e.raw)
  rw [ofJson_obj, toFields, hrelation, ← toFields, targetIn_toFields h]
  rfl

end Edge

namespace Record

/-- The record as it is read back from its fields. -/
def written (r : Record) : Record :=
  { r with edges := r.edges.map Edge.written, raw := r.toFields }

def texts (r : Record) : List (Text × Text) :=
  ("title", r.title) :: Prose.all.map fun p => (p.name, r.prose p)

def textNames : List Text :=
  "title" :: Prose.all.map Prose.name

/-- The names of the fields that a record knows. -/
def knownNames : List Text :=
  "id" :: "dependencies" :: textNames

theorem names_texts (r : Record) : r.texts.map Prod.fst = textNames := rfl

def putEdges (edges : List Edge) (fields : Fields) : Fields :=
  if hasField "dependencies" fields ∨ edges ≠ [] then
    setField "dependencies" (.arr (edges.map fun e => .obj e.toFields)) fields
  else
    fields

theorem toFields_eq (r : Record) : r.toFields =
    putEdges r.edges (putTexts r.texts (setField "id" (.str r.id) r.raw)) := rfl

theorem field?_putEdges {name : Text} (h : name ≠ "dependencies") (edges : List Edge)
    (fields : Fields) : field? name (putEdges edges fields) = field? name fields := by
  simp only [putEdges]
  split
  · exact field?_setField_ne h _ fields
  · rfl

/-- A field that a record does not know is carried along. -/
theorem field?_toFields {name : Text} (h : name ∉ knownNames) (r : Record) :
    field? name r.toFields = field? name r.raw := by
  simp only [knownNames, List.mem_cons, not_or] at h
  rw [toFields_eq, field?_putEdges h.2.1, field?_putTexts (by rw [names_texts]; exact h.2.2),
    field?_setField_ne h.1]

theorem field?_id_toFields (r : Record) : field? "id" r.toFields = some (.str r.id) := by
  rw [toFields_eq, field?_putEdges (by decide), field?_putTexts (by rw [names_texts]; decide),
    field?_setField_self]

/-- What is written for a text of a record. -/
theorem field?_text_toFields {r : Record} {p : Text × Text} (h : p ∈ r.texts) :
    field? p.1 r.toFields = textOver p.2 (field? p.1 r.raw) := by
  have hname : p.1 ∈ textNames := List.mem_map_of_mem h
  have hne : p.1 ≠ "id" ∧ p.1 ≠ "dependencies" := by
    constructor <;> intro heq <;> rw [heq] at hname <;> exact absurd hname (by decide)
  rw [toFields_eq, field?_putEdges hne.2, field?_putTexts_of_mem (by rw [names_texts]; decide) h,
    field?_setField_ne hne.1]

/-- What is written for the edges of a record. -/
theorem field?_dependencies_toFields (r : Record) : field? "dependencies" r.toFields =
    if hasField "dependencies" r.raw = true ∨ r.edges ≠ [] then
      some (.arr (r.edges.map fun e => .obj e.toFields))
    else none := by
  have hbefore : field? "dependencies" (putTexts r.texts (setField "id" (.str r.id) r.raw)) =
      field? "dependencies" r.raw := by
    rw [field?_putTexts (by rw [names_texts]; decide), field?_setField_ne (by decide)]
  have hput : hasField "dependencies" (putTexts r.texts (setField "id" (.str r.id) r.raw)) =
      hasField "dependencies" r.raw := by
    rw [hasField, hbefore, hasField]
  rw [toFields_eq]
  by_cases h : hasField "dependencies" r.raw = true ∨ r.edges ≠ []
  · rw [if_pos h, putEdges, if_pos (by rwa [hput]), field?_setField_self]
  · have hnone : field? "dependencies" r.raw = none := by
      have hfield := (not_or.mp h).1
      rwa [hasField, Bool.not_eq_true, Option.isSome_eq_false_iff,
        Option.isNone_iff_eq_none] at hfield
    rw [if_neg h, putEdges, if_neg (by rwa [hput]), hbefore, hnone]

theorem optionalText_toFields {r : Record} {p : Text × Text} (h : p ∈ r.texts) :
    optionalText? (field? p.1 r.toFields) = some p.2 := by
  rw [field?_text_toFields h, optionalText_textOver]

theorem readText_eq_ok {id name s : Text} {fields : Fields} :
    readText id name fields = .ok s ↔ optionalText? (field? name fields) = some s := by
  simp only [readText]
  cases field? name fields with
  | none => simp [optionalText?]
  | some v => cases v <;> simp [optionalText?]

theorem readId_eq_ok {id : Text} {fields : Fields} :
    readId fields = .ok id ↔ field? "id" fields = some (.str id) ∧ id ≠ [] := by
  simp only [readId]
  cases field? "id" fields with
  | none => simp
  | some v =>
      cases v with
      | str s =>
          by_cases hs : s = []
          · simp [hs]
          · simp only [hs, ↓reduceIte, Except.ok.injEq, Option.some.injEq, Json.str.injEq]
            exact ⟨fun h => ⟨h, h ▸ hs⟩, fun h => h.1⟩
      | null | bool _ | int _ | float _ | arr _ | obj _ => simp

/-- A record has the id, the texts, the edges and the fields it was read from. -/
theorem ofJson_eq_ok {v : Json} {r : Record} : ofJson v = .ok r ↔
    v = .obj r.raw ∧ readId r.raw = .ok r.id ∧
      (∀ p ∈ r.texts, optionalText? (field? p.1 r.raw) = some p.2) ∧
        readEdges r.id r.raw = .ok r.edges := by
  constructor
  · intro h
    cases v with
    | obj fields =>
        obtain ⟨id, hid, h⟩ := bind_eq_ok.mp h
        obtain ⟨title, htitle, h⟩ := bind_eq_ok.mp h
        obtain ⟨description, hdescription, h⟩ := bind_eq_ok.mp h
        obtain ⟨design, hdesign, h⟩ := bind_eq_ok.mp h
        obtain ⟨acceptanceCriteria, hcriteria, h⟩ := bind_eq_ok.mp h
        obtain ⟨notes, hnotes, h⟩ := bind_eq_ok.mp h
        obtain ⟨edges, hedges, h⟩ := bind_eq_ok.mp h
        cases h
        refine ⟨rfl, hid, ?_, hedges⟩
        simp only [texts, Prose.all, List.map_cons, List.map_nil, List.forall_mem_cons, prose]
        rw [readText_eq_ok] at htitle hdescription hdesign hcriteria hnotes
        exact ⟨htitle, hdescription, hdesign, hcriteria, hnotes,
          fun _ h => absurd h List.not_mem_nil⟩
    | null | bool _ | int _ | float _ | str _ | arr _ => cases h
  · rintro ⟨rfl, hid, ht, he⟩
    simp only [texts, Prose.all, List.map_cons, List.map_nil, List.forall_mem_cons, prose,
      ← @readText_eq_ok r.id] at ht
    obtain ⟨htitle, hdescription, hdesign, hcriteria, hnotes, _⟩ := ht
    simp only [ofJson, hid, htitle, hdescription, hdesign, hcriteria, hnotes, he, bind, Except.bind]

/-- A record that is read again as it is when it is written. -/
structure Faithful (r : Record) : Prop where
  id_ne_nil : r.id ≠ []
  edges : ∀ e ∈ r.edges, e.Faithful

theorem mapM_ofJson {edges : List Edge} (h : ∀ e ∈ edges, e.Faithful) :
    (edges.map fun e => Json.obj e.toFields).mapM Edge.ofJson =
      .ok (edges.map Edge.written) := by
  induction edges with
  | nil => rfl
  | cons e edges ih =>
      have hrest := ih fun x hx => h x (List.mem_cons_of_mem e hx)
      rw [List.map_cons, List.mapM_cons, Edge.ofJson_toFields (h e List.mem_cons_self), hrest]
      rfl

theorem readEdges_putEdges (id : Text) {edges : List Edge} (h : ∀ e ∈ edges, e.Faithful)
    (fields : Fields) : readEdges id (putEdges edges fields) = .ok (edges.map Edge.written) := by
  simp only [putEdges]
  split
  · simp only [readEdges, field?_setField_self, mapM_ofJson h]
  · next hnone =>
    simp only [hasField, not_or, Bool.not_eq_true, Option.isSome_eq_false_iff,
      Option.isNone_iff_eq_none, ne_eq, Classical.not_not] at hnone
    obtain ⟨hfield, rfl⟩ := hnone
    simp only [readEdges, hfield, List.map_nil]

/-- The fields of a record read back as the record. -/
theorem ofJson_toFields {r : Record} (h : r.Faithful) :
    ofJson (.obj r.toFields) = .ok r.written := by
  refine ofJson_eq_ok.mpr ⟨rfl, readId_eq_ok.mpr ⟨field?_id_toFields r, h.id_ne_nil⟩, ?_, ?_⟩
  · exact fun p hp => optionalText_toFields hp
  · exact readEdges_putEdges r.id h.edges _

theorem mem_of_mapM {items : List Json} {edges : List Edge}
    (h : items.mapM Edge.ofJson = .ok edges) {e : Edge} (he : e ∈ edges) :
    ∃ v ∈ items, Edge.ofJson v = .ok e := by
  induction items generalizing edges with
  | nil =>
      cases h
      exact absurd he List.not_mem_nil
  | cons v items ih =>
      rw [List.mapM_cons] at h
      obtain ⟨d, hd, h⟩ := bind_eq_ok.mp h
      obtain ⟨rest, hrest, h⟩ := bind_eq_ok.mp h
      cases h
      cases List.mem_cons.mp he with
      | inl heq =>
          subst heq
          exact ⟨v, List.mem_cons_self, hd⟩
      | inr he =>
          obtain ⟨w, hw, he⟩ := ih hrest he
          exact ⟨w, List.mem_cons_of_mem v hw, he⟩

theorem mem_of_readEdges {id : Text} {fields : Fields} {edges : List Edge}
    (h : readEdges id fields = .ok edges) {e : Edge} (he : e ∈ edges) :
    ∃ items, field? "dependencies" fields = some (.arr items) ∧
      ∃ v ∈ items, Edge.ofJson v = .ok e := by
  simp only [readEdges] at h
  split at h
  · cases h
    exact absurd he List.not_mem_nil
  · cases h
    exact absurd he List.not_mem_nil
  · next items hitems => exact ⟨items, hitems, mem_of_mapM h he⟩
  · cases h

theorem faithful_of_ofJson {v : Json} {r : Record} (h : ofJson v = .ok r) : r.Faithful := by
  obtain ⟨rfl, hid, _, hedges⟩ := ofJson_eq_ok.mp h
  refine ⟨(readId_eq_ok.mp hid).2, ?_⟩
  intro e he hempty
  obtain ⟨_, _, w, _, hread⟩ := mem_of_readEdges hedges he
  rw [← (Edge.ofJson_eq_ok hread).2.1, hempty]

end Record

end IssueMerge
