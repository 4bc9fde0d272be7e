import IssueMerge.Proofs.Json.RoundTrip
import IssueMerge.Proofs.Record.Changed

/-!
A record reads back from the line it is written as, also after it was renamed and its references
were rewritten, when no finite floating-point number is among its fields.
-/

namespace IssueMerge

open Json Outcome

namespace Text

theorem dropWhile_blank_cons {c : CodePoint} (h : c.isBlank = false) (t : Text) :
    (c :: t).dropWhile CodePoint.isBlank = c :: t :=
  List.dropWhile_cons_of_neg (by simp [h])

theorem trim_enclosed {c d : CodePoint} (hc : c.isBlank = false) (hd : d.isBlank = false) (t : Text)
    {ending : Text} (he : ∀ x ∈ ending, x.isBlank = true) :
    trim (c :: t ++ [d] ++ ending) = c :: t ++ [d] := by
  have hrev : ∀ x ∈ ending.reverse, x.isBlank = true :=
    fun x hx => he x (List.mem_reverse.mp hx)
  simp only [trim, List.cons_append, dropWhile_blank_cons hc]
  rw [← List.cons_append, ← List.cons_append, List.reverse_append,
    List.dropWhile_append_of_pos hrev, List.reverse_append, List.reverse_singleton,
    List.singleton_append, dropWhile_blank_cons hd]
  simp

end Text

/-- The longest numeral and the deepest value that is read. -/
abbrev Json.Storable (depth : Nat) (v : Json) : Prop :=
  Writable Numeral.maxDigits depth v

/-- A property of values at a depth that all texts have and that is a matter of the parts of a
value. -/
structure Json.Layered (P : Nat → Json → Prop) : Prop where
  str : ∀ depth s, P depth (.str s)
  arr : ∀ {depth items}, P (depth + 1) (.arr items) ↔ ∀ v ∈ items, P depth v
  obj : ∀ {depth fields}, P (depth + 1) (.obj fields) ↔ AllFields (P depth) fields

theorem Json.layered_fits (limit : Nat) : Layered (Fits limit) where
  str := fits_str limit
  arr := Iff.rfl
  obj := Iff.rfl

theorem Json.layered_writable (limit : Nat) : Layered (Writable limit) where
  str := writable_str limit
  arr := writable_arr
  obj := writable_obj

/-- The fields that a record carries along, and those of its edges, have a property. -/
structure Record.Carries (P : Nat → Json → Prop) (r : Record) : Prop where
  fields : AllFields (P 999) r.raw
  edgeFields : ∀ e ∈ r.edges, AllFields (P 997) e.raw

/-- A record that reads back from the line it is written as. -/
structure Record.Sound (r : Record) : Prop extends r.Faithful where
  fields : AllFields (Storable 999) r.raw
  edgeFields : ∀ e ∈ r.edges, AllFields (Storable 997) e.raw

theorem Edge.allFields_toFields {P : Json → Prop} (hstr : ∀ s, P (.str s)) {e : Edge}
    (h : AllFields P e.raw) : AllFields P e.toFields := by
  simp only [Edge.toFields]
  split
  · exact (h.setField (hstr _)).putText (hstr _)
  · exact h.putText (hstr _)

namespace Record

section

variable {P : Nat → Json → Prop} (hP : Layered P) {r : Record}

include hP

theorem Carries.toFields (h : r.Carries P) : AllFields (P 999) r.toFields := by
  have hid : AllFields (P 999) (setField "id" (.str r.id) r.raw) := h.fields.setField (hP.str _ _)
  have htexts := AllFields.putTexts (hP.str _) r.texts hid
  rw [toFields_eq]
  simp only [putEdges]
  split
  · refine htexts.setField (hP.arr.mpr ?_)
    intro v hv
    obtain ⟨e, he, rfl⟩ := List.mem_map.mp hv
    exact hP.obj.mpr (Edge.allFields_toFields (hP.str _) (h.edgeFields e he))
  · exact htexts

theorem carries_of_ofJson {v : Json} (hv : P 1000 v) (h : ofJson v = .ok r) : r.Carries P := by
  obtain ⟨rfl, _, _, hedges⟩ := ofJson_eq_ok.mp h
  have hfields := hP.obj.mp hv
  refine ⟨hfields, ?_⟩
  intro e he
  obtain ⟨items, hitems, w, hw, hread⟩ := mem_of_readEdges hedges he
  obtain ⟨rfl, _⟩ := Edge.ofJson_eq_ok hread
  exact hP.obj.mp (hP.arr.mp (hfields.2 _ (mem_of_field? hitems)) _ hw)

theorem Carries.rename (h : r.Carries P) (newId : Text) :
    ((r.renamed? newId).getD r).Carries P := by
  refine ⟨by rw [raw_rename]; exact h.fields, ?_⟩
  intro e he
  obtain ⟨d, hd, hraw⟩ := r.mem_edges_rename newId he
  cases hraw with
  | inl hraw =>
      rw [hraw]
      exact h.edgeFields d hd
  | inr hraw =>
      rw [hraw]
      exact (h.edgeFields d hd).setField (hP.str _ _)

omit hP in
theorem Carries.rewrite (h : r.Carries P) (table : RemapTable) : (r.rewrite table).Carries P := by
  refine ⟨h.fields, ?_⟩
  intro e he
  obtain ⟨d, hd, rfl⟩ := List.mem_map.mp he
  exact h.edgeFields d hd

end

theorem Sound.carries {r : Record} (h : r.Sound) : r.Carries Storable :=
  ⟨h.fields, h.edgeFields⟩

theorem Sound.toFields {r : Record} (h : r.Sound) : AllFields (Storable 999) r.toFields :=
  h.carries.toFields (layered_writable _)

theorem parse_toLine {r : Record} (h : r.Sound) : parse r.toLine = .ok r.written := by
  have hwritable : Writable Numeral.maxDigits 1000 (.obj r.toFields) := writable_obj.mpr h.toFields
  have hread : Json.parse r.toLine = .ok (.obj r.toFields) :=
    parse_eq_ok.mpr (document_compact hwritable)
  simp only [parse, hread]
  rw [ofJson_toFields h.toFaithful]
  rfl

theorem toLine_enclosed (r : Record) : ∃ t, r.toLine =
    CodePoint.ofChar '{' :: t ++ [CodePoint.ofChar '}'] :=
  ⟨_, rfl⟩

theorem trim_toLine (r : Record) {ending : Text} (he : ∀ x ∈ ending, x.isBlank = true) :
    (r.toLine ++ ending).trim = r.toLine := by
  obtain ⟨t, ht⟩ := toLine_enclosed r
  rw [ht]
  exact Text.trim_enclosed (by decide) (by decide) t he

/-- A record reads back from its line also when a carriage return follows. -/
theorem ofLine?_toLine {r : Record} (h : r.Sound) {ending : Text}
    (he : ∀ x ∈ ending, x.isBlank = true) :
    ofLine? (r.toLine ++ ending) = .ok (some r.written) := by
  simp only [ofLine?, r.trim_toLine he, parse_toLine h]

theorem exists_of_parse {line : Text} {r : Record} (h : parse line = .ok r) :
    ∃ v, Json.parse line = .ok v ∧ ofJson v = .ok r := by
  simp only [parse] at h
  split at h
  · next v hv => exact ⟨v, hv, mapError_eq_ok.mp h⟩
  all_goals cases h

theorem parse_of_ofLine? {line : Text} {r : Record} (h : ofLine? line = .ok (some r)) :
    parse line.trim = .ok r := by
  simp only [ofLine?] at h
  split at h
  · next r' hr =>
    cases h
    exact hr
  all_goals cases h

theorem ofLine?_eq_some {line : Text} {r : Record} (h : ofLine? line = .ok (some r)) :
    ∃ v, Json.parse line.trim = .ok v ∧ ofJson v = .ok r :=
  exists_of_parse (parse_of_ofLine? h)

theorem faithful_of_parse {line : Text} {r : Record} (h : parse line = .ok r) : r.Faithful := by
  obtain ⟨v, _, hr⟩ := exists_of_parse h
  exact faithful_of_ofJson hr

theorem faithful_of_ofLine? {line : Text} {r : Record} (h : ofLine? line = .ok (some r)) :
    r.Faithful :=
  faithful_of_parse (parse_of_ofLine? h)

theorem sound_of_ofJson {v : Json} {r : Record} (hv : Storable 1000 v) (h : ofJson v = .ok r) :
    r.Sound := by
  have hcarries := carries_of_ofJson (layered_writable _) hv h
  exact ⟨faithful_of_ofJson h, hcarries.fields, hcarries.edgeFields⟩

/-- A record that was read carries only what can be read. -/
theorem carries_of_parse {line : Text} {r : Record} (h : parse line = .ok r) :
    r.Carries (Fits Numeral.maxDigits) := by
  obtain ⟨v, hv, hr⟩ := exists_of_parse h
  exact carries_of_ofJson (layered_fits _) (fits_document (parse_eq_ok.mp hv)) hr

theorem carries_of_ofLine? {line : Text} {r : Record} (h : ofLine? line = .ok (some r)) :
    r.Carries (Fits Numeral.maxDigits) :=
  carries_of_parse (parse_of_ofLine? h)

theorem sound_of_parse {line : Text} {r : Record} (h : parse line = .ok r)
    (hdec : (Json.obj r.raw).hasDecimal = false) : r.Sound := by
  obtain ⟨v, hv, hr⟩ := exists_of_parse h
  have hraw := (ofJson_eq_ok.mp hr).1
  have hfits := fits_document (parse_eq_ok.mp hv)
  rw [← hraw] at hdec
  exact sound_of_ofJson ⟨hfits, hdec⟩ hr

theorem sound_of_ofLine? {line : Text} {r : Record} (h : ofLine? line = .ok (some r))
    (hdec : (Json.obj r.raw).hasDecimal = false) : r.Sound :=
  sound_of_parse (parse_of_ofLine? h) hdec

theorem Sound.rewrite {r : Record} (h : r.Sound) {table : RemapTable}
    (ht : ∀ p ∈ table, p.2 ≠ []) : (r.rewrite table).Sound :=
  have hcarries := h.carries.rewrite table
  ⟨h.toFaithful.rewrite ht, hcarries.fields, hcarries.edgeFields⟩

theorem Sound.rename {r : Record} (h : r.Sound) {newId : Text} (hid : newId ≠ []) :
    ((r.renamed? newId).getD r).Sound :=
  have hcarries := h.carries.rename (layered_writable _) newId
  ⟨h.toFaithful.rename hid, hcarries.fields, hcarries.edgeFields⟩

end Record

end IssueMerge
