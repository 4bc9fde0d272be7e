import IssueMerge.Proofs.Record.RoundTrip
import IssueMerge.Proofs.Record.Schema

/-!
Changes of the texts of a record as changes of its object. A record keeps its object as it was read
and its known fields apart from it; what is written for a record after a change is the object that
was written before with some texts replaced in their places, and nothing is added, dropped or moved.
-/

namespace IssueMerge

open Json Outcome

namespace Json

/-- A change of texts. All other values stay. -/
def onText (f : Text → Text) : Json → Json
  | .str s => .str (f s)
  | v => v

/-- A change of the items of lists. -/
def onItems (f : Json → Json) : Json → Json
  | .arr items => .arr (items.map f)
  | v => v

/-- A change of the values of objects, which depends on their names. -/
def onObject (f : Text → Json → Json) : Json → Json
  | .obj fields => .obj (mapFields f fields)
  | v => v

/-- A text is empty unless there is a value for it, so that it is put nowhere anew. -/
def Grounded (value : Text) (old : Option Json) : Prop :=
  value ≠ [] → old.any (!·.isNull) = true

theorem grounded_of_optionalText {value : Text} {old : Option Json}
    (h : optionalText? old = some value) : Grounded value old := by
  intro hne
  cases old with
  | none =>
      cases h
      exact absurd rfl hne
  | some v =>
      cases v with
      | null =>
          cases h
          exact absurd rfl hne
      | str _ => rfl
      | bool _ | int _ | float _ | arr _ | obj _ => cases h

theorem mem_names_of_any {name : Text} {fields : Fields} {P : Json → Bool}
    (h : (field? name fields).any P = true) : name ∈ names fields := by
  apply Classical.byContradiction
  intro hnone
  rw [field?_eq_none.mpr hnone] at h
  cases h

/-- Changing a text in its place is putting the changed text there. -/
theorem textOver_map {value : Text} {old : Option Json} (h : Grounded value old) {f : Text → Text}
    (hf : f [] = []) : textOver (f value) old = (textOver value old).map (onText f) := by
  cases hold : old.any (!·.isNull) with
  | true =>
      simp only [textOver, hold, or_true, ↓reduceIte, Option.map_some]
      rfl
  | false =>
      have hempty : value = [] := by
        apply Classical.byContradiction
        intro hne
        rw [h hne] at hold
        cases hold
      have hstays : old.map (onText f) = old := by
        cases old with
        | none => rfl
        | some v =>
            cases v with
            | null => rfl
            | _ => cases hold
      simp [textOver, hold, hempty, hf, hstays]

theorem names_putText {name value : Text} {fields : Fields} (h : value ≠ [] → name ∈ names fields) :
    names (putText name value fields) = names fields := by
  simp only [putText]
  split
  · next hput => rw [names_setField, if_pos (hput.elim h mem_names_of_any)]
  · rfl

theorem names_putTexts {texts : List (Text × Text)} {fields : Fields}
    (h : ∀ p ∈ texts, p.2 ≠ [] → p.1 ∈ names fields) :
    names (putTexts texts fields) = names fields := by
  induction texts generalizing fields with
  | nil => rfl
  | cons p texts ih =>
      obtain ⟨hp, hrest⟩ := List.forall_mem_cons.mp h
      have hfirst := names_putText hp
      exact (ih (by rwa [hfirst])).trans hfirst

end Json

/-- How the texts of a record change: its id, its free texts, and in its edges the ids where they
start and where they lead. -/
structure TextChange where
  id : Text → Text
  prose : Text → Text
  source : Text → Text
  target : Text → Text

namespace TextChange

/-- What becomes of the fields of an edge. -/
def onEdgeField (c : TextChange) (name : Text) (value : Json) : Json :=
  if name = "issue_id" then value.onText c.source
  else if name = "depends_on_id" then value.onText c.target
  else value

/-- What becomes of the fields of a record. -/
def onField (c : TextChange) (name : Text) (value : Json) : Json :=
  if name = "id" then value.onText c.id
  else if Prose.all.any (·.name = name) then value.onText c.prose
  else if name = "dependencies" then value.onItems (onObject c.onEdgeField)
  else value

/-- A change that leaves empty free texts and missing targets as they are. -/
structure Proper (c : TextChange) : Prop where
  prose : c.prose [] = []
  target : ∀ x, c.target x = [] ↔ x = []

def changeEdge (c : TextChange) (e : Edge) : Edge where
  target := c.target e.target
  relation := e.relation
  raw :=
    match e.issueId with
    | some s => setField "issue_id" (.str (c.source s)) e.raw
    | none => e.raw

def changeRecord (c : TextChange) (r : Record) : Record :=
  { r.withProse (fun p => c.prose (r.prose p)) with
    id := c.id r.id
    edges := r.edges.map c.changeEdge }

end TextChange

/-- An edge whose target and relation have a place in its fields, so that they are written there. -/
structure Edge.Rooted (e : Edge) : Prop where
  nodup : (names e.raw).Nodup
  faithful : e.Faithful
  target : e.target ≠ [] → ("depends_on_id" : Text) ∈ names e.raw
  relation : optionalText? (relationIn e.raw) = some e.relation

/-- A record whose known fields have a place in its object, so that they are written there. -/
structure Record.Rooted (r : Record) : Prop where
  nodup : (names r.raw).Nodup
  id : ("id" : Text) ∈ names r.raw
  title : Grounded r.title (field? "title" r.raw)
  prose : ∀ p, Grounded (r.prose p) (field? (Prose.name p) r.raw)
  dependencies : r.edges ≠ [] → ("dependencies" : Text) ∈ names r.raw
  edges : ∀ e ∈ r.edges, e.Rooted

namespace Edge

theorem rooted_of_ofJson {v : Json} {e : Edge} (h : ofJson v = .ok e)
    (hnodup : (names e.raw).Nodup) : e.Rooted := by
  obtain ⟨_, htarget, hrelation⟩ := ofJson_eq_ok h
  refine ⟨hnodup, fun hempty => htarget ▸ hempty, fun hne => ?_, hrelation⟩
  rw [htarget, targetIn] at hne
  split at hne
  · next s hs => exact mem_names_of_field? hs
  · exact absurd rfl hne

variable {e : Edge}

theorem Rooted.names_toFields (h : e.Rooted) : names e.toFields = names e.raw := by
  rw [toFields_of_relationIn h.relation]
  split
  · next hne => rw [names_setField, if_pos (h.target hne)]
  · rfl

theorem Rooted.field?_toFields (h : e.Rooted) (name : Text) : field? name e.toFields =
    if name = "depends_on_id" ∧ e.target ≠ [] then some (.str e.target) else field? name e.raw := by
  rw [toFields_of_relationIn h.relation]
  by_cases hname : name = "depends_on_id"
  · subst hname
    by_cases hempty : e.target = [] <;> simp [hempty]
  · split
    · rw [field?_setField_ne hname, if_neg fun hboth => hname hboth.1]
    · rw [if_neg fun hboth => hname hboth.1]

end Edge

namespace TextChange

variable {c : TextChange}

theorem names_changeEdge (c : TextChange) (e : Edge) :
    names (c.changeEdge e).raw = names e.raw := by
  simp only [changeEdge]
  split
  · next s hs => rw [names_setField, if_pos (mem_names_of_field? (Edge.issueId_eq_some.mp hs))]
  · rfl

theorem field?_changeEdge (c : TextChange) (e : Edge) (name : Text) :
    field? name (c.changeEdge e).raw =
      if name = "issue_id" then (field? name e.raw).map (onText c.source)
      else field? name e.raw := by
  simp only [changeEdge]
  by_cases hname : name = "issue_id"
  · subst hname
    rw [if_pos rfl]
    cases hid : e.issueId with
    | some s =>
        rw [field?_setField_self, Edge.issueId_eq_some.mp hid]
        rfl
    | none =>
        cases hfield : field? "issue_id" e.raw with
        | none => rfl
        | some v =>
            cases v with
            | str s => exact absurd (Edge.issueId_eq_some.mpr hfield) (by simp [hid])
            | null | bool _ | int _ | float _ | arr _ | obj _ => rfl
  · rw [if_neg hname]
    split
    · exact field?_setField_ne hname _ _
    · rfl

theorem rooted_changeEdge (hc : c.Proper) {e : Edge} (h : e.Rooted) : (c.changeEdge e).Rooted := by
  have hnames := c.names_changeEdge e
  have hfield := c.field?_changeEdge e
  refine ⟨by rw [hnames]; exact h.nodup, ?_, ?_, ?_⟩
  · intro hempty
    rw [Edge.targetIn_congr (hfield "depends_on_id")]
    exact h.faithful ((hc.target e.target).mp hempty)
  · intro hne
    rw [hnames]
    exact h.target (mt (hc.target e.target).mpr hne)
  · have hrelation : Edge.relationIn (c.changeEdge e).raw = Edge.relationIn e.raw := by
      simp only [Edge.relationIn, hfield]
      rfl
    rw [hrelation]
    exact h.relation

theorem map_onEdgeField_target (c : TextChange) {fields : Fields} (hc : c.Proper)
    (h : Edge.targetIn fields = []) : (field? "depends_on_id" fields).map
      (c.onEdgeField "depends_on_id") = field? "depends_on_id" fields := by
  simp only [Edge.targetIn] at h
  cases hfield : field? "depends_on_id" fields with
  | none => rfl
  | some v =>
      cases v with
      | str s =>
          rw [hfield] at h
          cases h
          exact congrArg (some ∘ Json.str) ((hc.target []).mpr rfl)
      | null | bool _ | int _ | float _ | arr _ | obj _ => rfl

/-- What is written for an edge after a change is what was written before, with the change made in
place. -/
theorem toFields_changeEdge (hc : c.Proper) {e : Edge} (h : e.Rooted) :
    (c.changeEdge e).toFields = mapFields c.onEdgeField e.toFields := by
  have h' := rooted_changeEdge hc h
  refine fields_ext (by rw [names_mapFields, h.names_toFields]; exact h.nodup) ?_ ?_
  · rw [names_mapFields, h.names_toFields, h'.names_toFields, names_changeEdge]
  · intro name
    rw [field?_mapFields, h.field?_toFields, h'.field?_toFields, field?_changeEdge]
    -- a missing target is not written, so what is in its place must be left alone by the change
    by_cases hname : name = "depends_on_id"
    · subst hname
      by_cases hempty : e.target = []
      · have hempty' : (c.changeEdge e).target = [] := (hc.target e.target).mpr hempty
        rw [if_neg (by simp [hempty']), if_neg (by decide), if_neg (by simp [hempty])]
        exact (c.map_onEdgeField_target hc (h.faithful hempty)).symm
      · have hne' : (c.changeEdge e).target ≠ [] := mt (hc.target e.target).mp hempty
        rw [if_pos ⟨rfl, hne'⟩, if_pos ⟨rfl, hempty⟩]
        rfl
    · simp only [hname, false_and, if_false]
      by_cases hid : name = "issue_id"
      · subst hid
        rfl
      · have hstays : c.onEdgeField name = fun v => v := by
          funext v
          rw [onEdgeField, if_neg hid, if_neg hname]
        rw [if_neg hid, hstays, Option.map_id']

end TextChange

namespace Record

theorem mem_texts_title (r : Record) : (("title" : Text), r.title) ∈ r.texts :=
  List.mem_cons_self

theorem mem_texts_prose (r : Record) (p : Prose) : (p.name, r.prose p) ∈ r.texts := by
  have hall : p ∈ Prose.all := by cases p <;> decide
  exact List.mem_cons_of_mem _ (List.mem_map_of_mem hall)

theorem eq_of_mem_knownNames {name : Text} (h : name ∈ knownNames) :
    name = "id" ∨ name = "dependencies" ∨ name = "title" ∨ ∃ p : Prose, name = p.name := by
  simp only [knownNames, textNames, List.mem_cons] at h
  refine h.imp_right (Or.imp_right (Or.imp_right fun hprose => ?_))
  obtain ⟨p, _, hp⟩ := List.mem_map.mp hprose
  exact ⟨p, hp.symm⟩

theorem rooted_of_ofJson {v : Json} {r : Record} {limit : Nat} (h : ofJson v = .ok r)
    (hcarries : r.Carries (Fits limit)) : r.Rooted := by
  obtain ⟨_, hid, htexts, hedges⟩ := ofJson_eq_ok.mp h
  refine ⟨hcarries.fields.1, mem_names_of_field? (readId_eq_ok.mp hid).1,
    grounded_of_optionalText (htexts _ r.mem_texts_title),
    fun p => grounded_of_optionalText (htexts _ (r.mem_texts_prose p)), ?_, ?_⟩
  · intro hne
    obtain ⟨e, rest, hcons⟩ := List.exists_cons_of_ne_nil hne
    obtain ⟨items, hitems, _⟩ := mem_of_readEdges hedges (hcons ▸ List.mem_cons_self)
    exact mem_names_of_field? hitems
  · intro e he
    obtain ⟨_, _, w, _, hread⟩ := mem_of_readEdges hedges he
    exact Edge.rooted_of_ofJson hread (hcarries.edgeFields e he).1

variable {r : Record}

theorem names_putEdges {edges : List Edge} {fields : Fields}
    (h : edges ≠ [] → ("dependencies" : Text) ∈ names fields) :
    names (putEdges edges fields) = names fields := by
  simp only [putEdges]
  split
  · next hput =>
    have hmem : ("dependencies" : Text) ∈ names fields := by
      cases hput with
      | inl hfield =>
          obtain ⟨v, hv⟩ := Option.isSome_iff_exists.mp hfield
          exact mem_names_of_field? hv
      | inr hne => exact h hne
    rw [names_setField, if_pos hmem]
  · rfl

theorem Rooted.names_toFields (h : r.Rooted) : names r.toFields = names r.raw := by
  have hid : names (setField "id" (.str r.id) r.raw) = names r.raw := by
    rw [names_setField, if_pos h.id]
  have hplace : ∀ p ∈ r.texts, p.2 ≠ [] → p.1 ∈ names r.raw := by
    intro p hp hne
    cases List.mem_cons.mp hp with
    | inl htitle =>
        subst htitle
        exact mem_names_of_any (h.title hne)
    | inr hprose =>
        obtain ⟨q, _, rfl⟩ := List.mem_map.mp hprose
        exact mem_names_of_any (h.prose q hne)
  have htexts : names (putTexts r.texts (setField "id" (.str r.id) r.raw)) = names r.raw := by
    rw [names_putTexts (by rwa [hid]), hid]
  rw [toFields_eq, names_putEdges (by rw [htexts]; exact h.dependencies), htexts]

end Record

namespace TextChange

variable {c : TextChange} {r : Record}

theorem prose_changeRecord (c : TextChange) (r : Record) (p : Prose) :
    (c.changeRecord r).prose p = c.prose (r.prose p) := by
  cases p <;> rfl

theorem rooted_changeRecord (hc : c.Proper) (h : r.Rooted) : (c.changeRecord r).Rooted := by
  refine ⟨h.nodup, h.id, h.title, ?_, ?_, ?_⟩
  · intro p hne
    rw [prose_changeRecord] at hne
    refine h.prose p fun hempty => hne ?_
    rw [hempty, hc.prose]
  · intro hne
    exact h.dependencies fun hempty => hne (by simp [changeRecord, hempty])
  · intro e he
    obtain ⟨d, hd, rfl⟩ := List.mem_map.mp he
    exact rooted_changeEdge hc (h.edges d hd)

theorem onField_of_unknown (c : TextChange) {name : Text} (h : name ∉ Record.knownNames)
    (value : Json) : c.onField name value = value := by
  simp only [Record.knownNames, Record.textNames, List.mem_cons, not_or] at h
  have hprose : ¬ Prose.all.any (·.name = name) = true := by
    intro hany
    obtain ⟨p, hp, hname⟩ := List.any_eq_true.mp hany
    exact h.2.2.2 (List.mem_map.mpr ⟨p, hp, of_decide_eq_true hname⟩)
  rw [onField, if_neg h.1, if_neg hprose, if_neg h.2.1]

theorem onField_prose (c : TextChange) (p : Prose) : c.onField p.name = onText c.prose := by
  funext value
  have hname : p.name ≠ "id" ∧ Prose.all.any (·.name = p.name) = true := by cases p <;> decide
  rw [onField, if_neg hname.1, if_pos hname.2]

theorem field?_title_changeRecord (c : TextChange) (r : Record) :
    field? "title" (c.changeRecord r).toFields =
      (field? "title" r.toFields).map (c.onField "title") := by
  have htitle := Record.field?_text_toFields r.mem_texts_title
  have htitle' := Record.field?_text_toFields (c.changeRecord r).mem_texts_title
  have hstays : c.onField "title" = fun v => v := rfl
  rw [htitle, htitle', hstays, Option.map_id']
  rfl

theorem field?_prose_changeRecord (hc : c.Proper) (h : r.Rooted) (p : Prose) :
    field? p.name (c.changeRecord r).toFields =
      (field? p.name r.toFields).map (c.onField p.name) := by
  have hprose := Record.field?_text_toFields (r.mem_texts_prose p)
  have hprose' := Record.field?_text_toFields ((c.changeRecord r).mem_texts_prose p)
  rw [hprose, hprose', onField_prose, prose_changeRecord]
  exact textOver_map (h.prose p) hc.prose

theorem field?_dependencies_changeRecord (hc : c.Proper) (h : r.Rooted) :
    field? "dependencies" (c.changeRecord r).toFields =
      (field? "dependencies" r.toFields).map (c.onField "dependencies") := by
  have hedges : (c.changeRecord r).edges.map (fun e => Json.obj e.toFields) =
      (r.edges.map fun e => Json.obj e.toFields).map (onObject c.onEdgeField) := by
    rw [changeRecord, List.map_map, List.map_map]
    exact List.map_congr_left fun e he =>
      congrArg Json.obj (toFields_changeEdge hc (h.edges e he))
  have hempty : (c.changeRecord r).edges ≠ [] ↔ r.edges ≠ [] := by simp [changeRecord]
  have hraw : (c.changeRecord r).raw = r.raw := rfl
  rw [Record.field?_dependencies_toFields, Record.field?_dependencies_toFields, hedges, hraw]
  simp only [hempty]
  split <;> rfl

theorem field?_unknown_changeRecord (c : TextChange) (r : Record) {name : Text}
    (h : name ∉ Record.knownNames) : field? name (c.changeRecord r).toFields =
      (field? name r.toFields).map (c.onField name) := by
  have hstays : c.onField name = fun v => v := funext (c.onField_of_unknown h)
  rw [hstays, Option.map_id', Record.field?_toFields h, Record.field?_toFields h]
  rfl

/-- What is written for a record after a change is what was written before, with the change made in
place. -/
theorem toFields_changeRecord (hc : c.Proper) (h : r.Rooted) :
    (c.changeRecord r).toFields = mapFields c.onField r.toFields := by
  have hnames := h.names_toFields
  refine fields_ext (by rw [names_mapFields, hnames]; exact h.nodup) ?_ fun name => ?_
  · rw [names_mapFields, hnames, (rooted_changeRecord hc h).names_toFields]
    rfl
  · rw [field?_mapFields]
    by_cases hknown : name ∈ Record.knownNames
    · rcases Record.eq_of_mem_knownNames hknown with rfl | rfl | rfl | ⟨p, rfl⟩
      · rw [Record.field?_id_toFields, Record.field?_id_toFields]
        rfl
      · exact field?_dependencies_changeRecord hc h
      · exact c.field?_title_changeRecord r
      · exact field?_prose_changeRecord hc h p
    · exact c.field?_unknown_changeRecord r hknown

/-- The change in which a record gets an id and its references are replaced. -/
def ofIds (oldId newId : Text) (table : RemapTable) : TextChange where
  id _ := newId
  prose := table.rewriteText
  source s := if s = oldId then newId else s
  target s := (table.find? s).getD s

theorem proper_ofIds {table : RemapTable} (htable : ∀ p ∈ table, p.1 ≠ [] ∧ p.2 ≠ [])
    (oldId newId : Text) : (ofIds oldId newId table).Proper := by
  refine ⟨table.rewriteText_empty, fun x => ?_⟩
  simp only [ofIds]
  cases hfind : table.find? x with
  | none => exact Iff.rfl
  | some y =>
      obtain ⟨hx, hy⟩ := htable (x, y) (RemapTable.mem_of_find? hfind)
      exact iff_of_false hy hx

theorem changeEdge_ofIds (oldId newId : Text) (table : RemapTable) (e : Edge) :
    (ofIds oldId newId table).changeEdge e =
      table.rewriteEdge (Record.renameEdge oldId newId e) := by
  cases hid : e.issueId with
  | none => simp [changeEdge, Record.renameEdge, RemapTable.rewriteEdge, ofIds, hid]
  | some s =>
      by_cases hs : s = oldId
      · simp [changeEdge, Record.renameEdge, RemapTable.rewriteEdge, ofIds, hid, hs]
      · simp [changeEdge, Record.renameEdge, RemapTable.rewriteEdge, ofIds, hid, hs,
          setField_of_field? (Edge.issueId_eq_some.mp hid)]

theorem changeRecord_ofIds (r : Record) (newId : Text) (table : RemapTable) :
    (ofIds r.id newId table).changeRecord r = (r.rename newId).rewrite table := by
  have hedges : (r.rename newId).edges.map table.rewriteEdge =
      r.edges.map (ofIds r.id newId table).changeEdge := by
    rw [Record.rename, List.map_map]
    exact List.map_congr_left fun e _ => (changeEdge_ofIds r.id newId table e).symm
  simp only [Record.rewrite, hedges]
  rfl

end TextChange

namespace Record

theorem rooted_of_parse {line : Text} {r : Record} (h : parse line = .ok r) : r.Rooted := by
  obtain ⟨v, _, hr⟩ := exists_of_parse h
  exact rooted_of_ofJson hr (carries_of_parse h)

/-- Records that are written alike have the same texts and targets. -/
theorem rewrite_eq_self_of_toFields {r : Record} {table : RemapTable} (h : r.Faithful)
    (htable : ∀ p ∈ table, p.2 ≠ []) (hfields : (r.rewrite table).toFields = r.toFields) :
    r.rewrite table = r := by
  have hwritten : (r.rewrite table).written = r.written := by
    have hread := ofJson_toFields (h.rewrite htable)
    rw [hfields, ofJson_toFields h] at hread
    exact (Except.ok.inj hread).symm
  have halike := (r.rewrite table).alike_written
  rw [hwritten] at halike
  refine r.rewrite_eq_self table ?_ fun p => ?_
  · exact halike.targets.symm.trans r.alike_written.targets
  · rw [← prose_rewrite, ← halike.prose, r.alike_written.prose]

end Record

/-- What renaming a record and rewriting its references changes in what is written for it: its id,
the issues its edges start from and lead to, and its free texts, each in its place, and nothing else.
No change is reported exactly when there is none. -/
theorem rewriting_changes_references {line : Text} {r : Record} (h : Record.parse line = .ok r)
    {newId : Option Text} (hid : ∀ id ∈ newId, id ≠ []) {table : RemapTable}
    (htable : ∀ p ∈ table, p.1 ≠ [] ∧ p.2 ≠ []) (exclude : List Text) :
    let used := table.without exclude
    let renamed := newId.elim r fun id => (r.renamed? id).getD r
    let result := (renamed.rewritten? used).getD renamed
    result.toFields =
        mapFields (TextChange.ofIds r.id (newId.getD r.id) used).onField r.toFields ∧
      names result.toFields = names r.toFields ∧
      (renamed.rewritten? used = none ↔ result.toFields = renamed.toFields) := by
  intro used renamed result
  have hused : ∀ p ∈ used, p.1 ≠ [] ∧ p.2 ≠ [] := fun p hp => htable p (List.mem_of_mem_filter hp)
  have hrenamed : renamed = r.rename (newId.getD r.id) := by
    cases newId with
    | none =>
        have hsame : (r.renamed? r.id).getD r = r := by simp [Record.renamed?]
        exact hsame.symm.trans (r.renamed?_getD r.id)
    | some id => exact r.renamed?_getD id
  have hresult : result = renamed.rewrite used := renamed.rewritten?_getD used
  have hchange : result.toFields =
      mapFields (TextChange.ofIds r.id (newId.getD r.id) used).onField r.toFields := by
    rw [hresult, hrenamed, ← TextChange.changeRecord_ofIds]
    exact TextChange.toFields_changeRecord (TextChange.proper_ofIds hused _ _)
      (Record.rooted_of_parse h)
  refine ⟨hchange, by rw [hchange, names_mapFields], ?_⟩
  rw [Record.rewritten?_eq_none, hresult]
  constructor
  · exact congrArg Record.toFields
  · have hfaithful : renamed.Faithful := by
      cases newId with
      | none => exact Record.faithful_of_parse h
      | some id => exact (Record.faithful_of_parse h).rename (hid id rfl)
    exact Record.rewrite_eq_self_of_toFields hfaithful fun p hp => (hused p hp).2

/-- A record in which what changes stands among texts that stay: `null`, a title and a field that is
not known mention ids too, and its edges say their relation in either field and lead nowhere. -/
def mentioningLine : Text :=
  "\x7b\"notes\":null,\"title\":\"bd-2\",\"id\":\"bd-1\",\"design\":\"bd-2, bd-3 and bd-22\"," ++
    "\"parent\":\"bd-2\",\"dependencies\":[\x7b\"relation_type\":\"bd-2\"," ++
    "\"depends_on_id\":\"bd-2\",\"issue_id\":\"bd-1\"\x7d,\x7b\"issue_id\":\"bd-2\"\x7d," ++
    "\x7b\"depends_on_id\":\"bd-3\",\"issue_id\":null\x7d]\x7d"

theorem rewriting_changes_references_mentioningLine : ∃ r,
    Record.parse mentioningLine = .ok r ∧
      let used := RemapTable.without [("bd-2", "bd-8"), ("bd-3", "bd-7")] ["bd-3"]
      let renamed := (r.renamed? "bd-9").getD r
      let result := (renamed.rewritten? used).getD renamed
      result.toFields = mapFields (TextChange.ofIds r.id "bd-9" used).onField r.toFields ∧
        names result.toFields = names r.toFields ∧
        (renamed.rewritten? used = none ↔ result.toFields = renamed.toFields) := by
  have hread : (Record.parse mentioningLine).map Record.id = .ok "bd-1" := by decide +kernel
  obtain ⟨r, hr, _⟩ := map_eq_ok.mp hread
  have hid : ∀ id ∈ (some ("bd-9" : Text)), id ≠ [] := by decide
  have htable : ∀ p ∈ ([("bd-2", "bd-8"), ("bd-3", "bd-7")] : RemapTable), p.1 ≠ [] ∧ p.2 ≠ [] := by
    decide
  exact ⟨r, hr, rewriting_changes_references hr hid htable ["bd-3"]⟩

end IssueMerge
