import IssueMerge.Json.Basic

/-!
Fields of objects: what is found after a field was set, when collecting or setting fields changes
nothing, and what is found after all values were changed in their places.
-/

namespace IssueMerge

namespace Json

def names (fields : Fields) : List Text :=
  fields.map Prod.fst

/-- No name stands twice, and all values have the property. -/
def AllFields (P : Json → Prop) (fields : Fields) : Prop :=
  (names fields).Nodup ∧ ∀ p ∈ fields, P p.2

@[simp] theorem field?_setField_self (name : Text) (value : Json) (fields : Fields) :
    field? name (setField name value fields) = some value := by
  induction fields with
  | nil => simp [setField, field?]
  | cons p rest ih =>
      simp only [setField]
      split
      · next h => simp [field?, h]
      · next h => simp [field?, h, ih]

theorem field?_setField_ne {name other : Text} (h : other ≠ name) (value : Json)
    (fields : Fields) :
    field? other (setField name value fields) = field? other fields := by
  induction fields with
  | nil => simp [setField, field?, h.symm]
  | cons p rest ih =>
      simp only [setField]
      split
      · next hp => simp [field?, hp, h.symm]
      · next hp => simp [field?, ih]

theorem mem_setField {name : Text} {value : Json} {fields : Fields} {p : Text × Json}
    (h : p ∈ setField name value fields) : p = (name, value) ∨ p ∈ fields := by
  induction fields with
  | nil => exact .inl (List.mem_singleton.mp h)
  | cons q rest ih =>
      simp only [setField] at h
      split at h
      · next hq =>
        cases List.mem_cons.mp h with
        | inl heq =>
            subst heq
            exact .inl (by rw [hq])
        | inr hp => exact .inr (List.mem_cons_of_mem q hp)
      · cases List.mem_cons.mp h with
        | inl heq =>
            subst heq
            exact .inr List.mem_cons_self
        | inr hp => exact (ih hp).imp id (List.mem_cons_of_mem q)

theorem names_setField (name : Text) (value : Json) (fields : Fields) :
    names (setField name value fields) =
      if name ∈ names fields then names fields else names fields ++ [name] := by
  induction fields with
  | nil => simp [setField, names]
  | cons p rest ih =>
      simp only [names] at ih
      simp only [setField]
      split
      · next h => simp [names, h]
      · next h =>
        by_cases hm : name ∈ rest.map Prod.fst
        · simp [names, ih, hm]
        · simp [names, ih, hm, Ne.symm h]

theorem nodup_names_setField {name : Text} {value : Json} {fields : Fields}
    (h : (names fields).Nodup) : (names (setField name value fields)).Nodup := by
  rw [names_setField]
  split
  · exact h
  · next hn =>
    refine List.nodup_append.mpr ⟨h, by simp, ?_⟩
    intro a ha b hb hab
    rw [hab, List.mem_singleton.mp hb] at ha
    exact hn ha

theorem AllFields.setField {P : Json → Prop} {name : Text} {value : Json} {fields : Fields}
    (h : AllFields P fields) (hv : P value) : AllFields P (setField name value fields) := by
  refine ⟨nodup_names_setField h.1, ?_⟩
  intro p hp
  cases mem_setField hp with
  | inl heq =>
      subst heq
      exact hv
  | inr hp => exact h.2 p hp

theorem AllFields.foldl_setField {P : Json → Prop} (pairs : Fields) {fields : Fields}
    (hp : ∀ p ∈ pairs, P p.2) (h : AllFields P fields) :
    AllFields P (pairs.foldl (fun fields p => Json.setField p.1 p.2 fields) fields) := by
  induction pairs generalizing fields with
  | nil => exact h
  | cons p rest ih =>
      exact ih (fun q hq => hp q (List.mem_cons_of_mem p hq))
        (h.setField (hp p List.mem_cons_self))

theorem allFields_collect {P : Json → Prop} {pairs : Fields} (hp : ∀ p ∈ pairs, P p.2) :
    AllFields P (collect pairs) :=
  AllFields.foldl_setField pairs hp ⟨List.nodup_nil, fun _ h => absurd h List.not_mem_nil⟩

theorem setField_of_not_mem {name : Text} {fields : Fields} (h : name ∉ names fields)
    (value : Json) : setField name value fields = fields ++ [(name, value)] := by
  induction fields with
  | nil => rfl
  | cons p rest ih =>
      simp only [names, List.map_cons, List.mem_cons, not_or] at h
      simp only [setField, Ne.symm h.1, ↓reduceIte, ih h.2, List.cons_append]

theorem foldl_setField_of_nodup (pairs fields : Fields) (h : (names (fields ++ pairs)).Nodup) :
    pairs.foldl (fun fields p => setField p.1 p.2 fields) fields = fields ++ pairs := by
  induction pairs generalizing fields with
  | nil => exact (List.append_nil fields).symm
  | cons p rest ih =>
      have hp : p.1 ∉ names fields := by
        intro hm
        simp only [names, List.map_append, List.map_cons, List.nodup_append] at h
        exact h.2.2 p.1 hm p.1 List.mem_cons_self rfl
      rw [List.foldl_cons, setField_of_not_mem hp, ih _ (by simpa using h)]
      simp

/-- Distinct fields are collected as they are. -/
theorem collect_of_nodup {fields : Fields} (h : (names fields).Nodup) : collect fields = fields :=
  foldl_setField_of_nodup fields [] h

theorem mem_of_field? {name : Text} {value : Json} {fields : Fields}
    (h : field? name fields = some value) : (name, value) ∈ fields := by
  induction fields with
  | nil => cases h
  | cons p rest ih =>
      simp only [field?] at h
      split at h
      · next hp =>
        cases h
        rw [← hp]
        exact List.mem_cons_self
      · exact List.mem_cons_of_mem p (ih h)

theorem field?_eq_none {name : Text} {fields : Fields} :
    field? name fields = none ↔ name ∉ names fields := by
  induction fields with
  | nil => simp [field?, names]
  | cons p rest ih =>
      simp only [names] at ih
      simp only [field?, names, List.map_cons, List.mem_cons, not_or]
      split
      · next h => simp [h]
      · next h => simp [ih, Ne.symm h]

theorem mem_names_of_field? {name : Text} {value : Json} {fields : Fields}
    (h : field? name fields = some value) : name ∈ names fields :=
  List.mem_map_of_mem (mem_of_field? h)

/-- Setting a field to the value it has changes nothing. -/
theorem setField_of_field? {name : Text} {value : Json} {fields : Fields}
    (h : field? name fields = some value) : setField name value fields = fields := by
  induction fields with
  | nil => cases h
  | cons p rest ih =>
      simp only [field?] at h
      simp only [setField]
      split at h
      · next hp =>
        cases h
        rw [if_pos hp]
      · next hp => rw [if_neg hp, ih h]

/-- Fields in the same order with the same values are the same. -/
theorem fields_ext {fields fields' : Fields} (hnodup : (names fields).Nodup)
    (hnames : names fields' = names fields)
    (hvalues : ∀ name, field? name fields' = field? name fields) : fields' = fields := by
  induction fields generalizing fields' with
  | nil => exact List.map_eq_nil_iff.mp hnames
  | cons p rest ih =>
      obtain ⟨p', rest', rfl, hp, htail⟩ := List.map_eq_cons_iff.mp hnames
      have hrest : names rest' = names rest := htail
      obtain ⟨hfirst, hnodup⟩ := List.nodup_cons.mp hnodup
      have hvalue := hvalues p.1
      simp only [field?, hp, ↓reduceIte, Option.some.injEq] at hvalue
      have hbehind : ∀ name, field? name rest' = field? name rest := by
        intro name
        by_cases hname : p.1 = name
        · subst hname
          rw [field?_eq_none.mpr hfirst, field?_eq_none.mpr (by rwa [hrest])]
        · have hfield := hvalues name
          simpa only [field?, hp, hname, ↓reduceIte] using hfield
      rw [ih hnodup hrest hbehind, Prod.ext hp hvalue]

/-- The fields with their values changed, under the same names and in the same order. -/
def mapFields (f : Text → Json → Json) (fields : Fields) : Fields :=
  fields.map fun p => (p.1, f p.1 p.2)

@[simp] theorem names_mapFields (f : Text → Json → Json) (fields : Fields) :
    names (mapFields f fields) = names fields :=
  List.map_map

@[simp] theorem field?_mapFields (name : Text) (f : Text → Json → Json) (fields : Fields) :
    field? name (mapFields f fields) = (field? name fields).map (f name) := by
  induction fields with
  | nil => rfl
  | cons p rest ih =>
      simp only [mapFields] at ih
      simp only [mapFields, List.map_cons, field?]
      split
      · next h => simp [h]
      · exact ih

end Json

end IssueMerge
