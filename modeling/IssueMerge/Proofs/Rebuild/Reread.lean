import IssueMerge.Proofs.Rebuild.Lines
import IssueMerge.Proofs.Rebuild.Records

/-!
The records on the lines that are emitted, with whatever numbers they carry along. A floating-point
number may be read again as another one, but that makes no record unusable and changes neither its id
nor where its edges lead.
-/

namespace IssueMerge

open Json Outcome

namespace Json

theorem optionalText?_reread (v : Option Json) : optionalText? (v.map reread) = optionalText? v := by
  cases v with
  | none => rfl
  | some v => cases v <;> rfl

end Json

namespace Edge

/-- The edge with its numbers as they are read again. -/
def reread (e : Edge) : Edge :=
  { e with raw := rereadFields e.raw }

theorem targetIn_reread (fields : Fields) : targetIn (rereadFields fields) = targetIn fields := by
  simp only [targetIn, field?_rereadFields]
  cases field? "depends_on_id" fields with
  | none => rfl
  | some v => cases v <;> rfl

theorem relationIn_reread (fields : Fields) :
    relationIn (rereadFields fields) = (relationIn fields).map Json.reread := by
  simp only [relationIn, field?_rereadFields]
  cases field? "type" fields <;> rfl

theorem ofJson_reread {v : Json} {e : Edge} (h : ofJson v = .ok e) :
    ofJson v.reread = .ok e.reread := by
  obtain ⟨rfl, htarget, hrelation⟩ := ofJson_eq_ok h
  rw [Json.reread, ofJson_obj, relationIn_reread, optionalText?_reread, hrelation, targetIn_reread,
    ← htarget]
  rfl

end Edge

namespace Record

/-- The record with its numbers as they are read again. -/
def reread (r : Record) : Record :=
  { r with edges := r.edges.map Edge.reread, raw := rereadFields r.raw }

theorem readId_reread {fields : Fields} {id : Text} (h : readId fields = .ok id) :
    readId (rereadFields fields) = .ok id := by
  obtain ⟨hid, hne⟩ := readId_eq_ok.mp h
  refine readId_eq_ok.mpr ⟨?_, hne⟩
  rw [field?_rereadFields, hid]
  rfl

theorem mapM_ofJson_reread {items : List Json} {edges : List Edge}
    (h : items.mapM Edge.ofJson = .ok edges) :
    (rereadItems items).mapM Edge.ofJson = .ok (edges.map Edge.reread) := by
  rw [rereadItems_eq_map]
  induction items generalizing edges with
  | nil =>
      cases h
      rfl
  | cons v items ih =>
      rw [List.mapM_cons] at h
      obtain ⟨e, he, h⟩ := bind_eq_ok.mp h
      obtain ⟨rest, hrest, h⟩ := bind_eq_ok.mp h
      cases h
      rw [List.map_cons, List.mapM_cons, Edge.ofJson_reread he, ih hrest]
      rfl

theorem readEdges_reread {id : Text} {fields : Fields} {edges : List Edge}
    (h : readEdges id fields = .ok edges) :
    readEdges id (rereadFields fields) = .ok (edges.map Edge.reread) := by
  simp only [readEdges, field?_rereadFields] at h ⊢
  cases hfield : field? "dependencies" fields with
  | none =>
      rw [hfield] at h
      cases h
      rfl
  | some v =>
      rw [hfield] at h
      cases v with
      | null =>
          cases h
          rfl
      | arr items => exact mapM_ofJson_reread h
      | bool _ | int _ | float _ | str _ | obj _ => cases h

theorem ofJson_reread {v : Json} {r : Record} (h : ofJson v = .ok r) :
    ofJson v.reread = .ok r.reread := by
  obtain ⟨rfl, hid, htexts, hedges⟩ := ofJson_eq_ok.mp h
  refine ofJson_eq_ok.mpr ⟨rfl, readId_reread hid, fun p hp => ?_, readEdges_reread hedges⟩
  have hfield : field? p.1 r.reread.raw = (field? p.1 r.raw).map Json.reread :=
    field?_rereadFields p.1 r.raw
  rw [hfield, optionalText?_reread]
  exact htexts p hp

/-- A record is read from its line as it was written, but for numbers. -/
theorem ofLine?_toLine_reread {r : Record} (hfaithful : r.Faithful)
    (hcarries : r.Carries (Fits Numeral.maxDigits)) {ending : Text}
    (he : ∀ c ∈ ending, c.isBlank = true) :
    ofLine? (r.toLine ++ ending) = .ok (some r.written.reread) := by
  simp only [ofLine?, r.trim_toLine he, parse, reread_toLine hcarries,
    ofJson_reread (ofJson_toFields hfaithful)]
  rfl

/-- The records have the same id and their edges lead to the same ids. -/
structure SameNode (r r' : Record) : Prop where
  id : r'.id = r.id
  targets : r'.edges.map Edge.target = r.edges.map Edge.target

theorem sameNode_reread (r : Record) : r.SameNode r.written.reread := by
  refine ⟨rfl, ?_⟩
  simp only [reread, written, List.map_map]
  rfl

end Record

/-- A record is emitted on a line on which it is found again, under the id and with the references
that it got. -/
theorem Origin.sameNode_emit {plan : ResolutionPlan} {origin : Origin} {line : Text} {r : Record}
    (h : origin.Proper plan) (hon : Record.on? line = some r) :
    ∃ r', Record.on? (origin.emit plan line) = some r' ∧ (origin.settle plan r).SameNode r' := by
  cases emit_of_some hon plan origin with
  | inl hsame =>
      rw [hsame.1, hsame.2]
      exact ⟨r, hon, rfl, rfl⟩
  | inr hchanged =>
      obtain ⟨ending, hending, hline⟩ := hchanged
      have hread := Record.on?_eq_some.mp hon
      have hfaithful := h.faithful (Record.faithful_of_ofLine? hread)
      have hcarries := carries_settle (Record.carries_of_ofLine? hread) plan origin
      rw [hline]
      exact ⟨_, Record.on?_of_ofLine? (Record.ofLine?_toLine_reread hfaithful hcarries hending),
        Record.sameNode_reread _⟩

end IssueMerge
