import IssueMerge.Proofs.Conflict.Legible
import IssueMerge.Proofs.Rebuild.Emitted
import IssueMerge.Proofs.Record.Line
import IssueMerge.Proofs.Text.Lines

/-!
The lines that are emitted are lines again: none holds a line feed, each can be read, whatever ids a
source gave and whatever numbers the records carry, and each is to a conflict what the line it is
emitted for is. On a line for a record stands the id that the record gets.
-/

namespace IssueMerge

open Json

namespace Record

/-- The id in the object on a line, if there is one. -/
def idOn? (line : Text) : Option Text :=
  match Json.parse line.trim with
  | .ok (.obj fields) =>
    match field? "id" fields with
    | some (.str id) => some id
    | _ => none
  | _ => none

theorem idOn?_of_on? {line : Text} {r : Record} (h : on? line = some r) :
    idOn? line = some r.id := by
  obtain ⟨v, hv, hr⟩ := ofLine?_eq_some (on?_eq_some.mp h)
  obtain ⟨hraw, hid, _⟩ := ofJson_eq_ok.mp hr
  simp only [idOn?, hv, hraw, (readId_eq_ok.mp hid).1]

theorem reread_toLine {r : Record} (h : r.Carries (Fits Numeral.maxDigits)) :
    Json.parse r.toLine = .ok (Json.obj r.toFields).reread := by
  have hfits : Fits Numeral.maxDigits 1000 (.obj r.toFields) := h.toFields (layered_fits _)
  exact parse_eq_ok.mpr (document_compact_reread hfits)

theorem legible_toLine {r : Record} (h : r.Carries (Fits Numeral.maxDigits)) {ending : Text}
    (he : ∀ c ∈ ending, c.isBlank = true) : Legible (r.toLine ++ ending) := by
  intro e
  simp only [r.trim_toLine he, parse, reread_toLine h]
  cases ofJson (Json.obj r.toFields).reread <;> simp [Except.mapError]

theorem idOn?_toLine {r : Record} (h : r.Carries (Fits Numeral.maxDigits)) {ending : Text}
    (he : ∀ c ∈ ending, c.isBlank = true) : idOn? (r.toLine ++ ending) = some r.id := by
  have hid : field? "id" (rereadFields r.toFields) = some (.str r.id) := by
    rw [field?_rereadFields, field?_id_toFields]
    rfl
  simp only [idOn?, r.trim_toLine he, reread_toLine h, reread, hid]

end Record

namespace Origin

variable {plan : ResolutionPlan} {origin : Origin} {line : Text}

theorem carries_settle {r : Record} (h : r.Carries (Fits Numeral.maxDigits))
    (plan : ResolutionPlan) (origin : Origin) :
    (origin.settle plan r).Carries (Fits Numeral.maxDigits) := by
  simp only [settle, rename]
  cases origin.newId? with
  | none => exact h.rewrite _
  | some newId => exact (h.rename (layered_fits _) newId).rewrite _

theorem legible_emit (h : Legible line) (plan : ResolutionPlan) (origin : Origin) :
    Legible (origin.emit plan line) := by
  cases hon : Record.on? line with
  | none =>
      rw [emit_of_none plan origin hon]
      exact h
  | some r =>
      cases emit_of_some hon plan origin with
      | inl hsame =>
          rw [hsame.1]
          exact h
      | inr hchanged =>
          obtain ⟨ending, hending, hline⟩ := hchanged
          rw [hline]
          exact Record.legible_toLine
            (carries_settle (Record.carries_of_ofLine? (Record.on?_eq_some.mp hon)) plan origin)
            hending

/-- A record is emitted under its own id or under the one it gets. -/
theorem idOn?_emit {r : Record} (h : Record.on? line = some r) (plan : ResolutionPlan)
    (origin : Origin) :
    Record.idOn? (origin.emit plan line) = some (origin.newId?.getD r.id) := by
  rw [← id_settle plan]
  cases emit_of_some h plan origin with
  | inl hsame => rw [hsame.1, hsame.2, Record.idOn?_of_on? h]
  | inr hchanged =>
      obtain ⟨ending, hending, hline⟩ := hchanged
      have hcarries := Record.carries_of_ofLine? (Record.on?_eq_some.mp h)
      rw [hline]
      exact Record.idOn?_toLine (carries_settle hcarries plan origin) hending

theorem kind_emit (plan : ResolutionPlan) (origin : Origin) (line : Text) :
    LineKind.ofLine (origin.emit plan line) = LineKind.ofLine line := by
  cases hon : Record.on? line with
  | none => rw [emit_of_none plan origin hon]
  | some r =>
      cases emit_of_some hon plan origin with
      | inl hsame => rw [hsame.1]
      | inr hchanged =>
          obtain ⟨ending, hending, hline⟩ := hchanged
          have hcontent : LineKind.ofLine line = .content :=
            Record.kind_of_on? (Option.isSome_of_eq_some hon)
          rw [hline, hcontent]
          exact Record.kind_toLine _ hending

theorem lineFeed_notMem_emit (h : CodePoint.lineFeed ∉ line) (plan : ResolutionPlan)
    (origin : Origin) : CodePoint.lineFeed ∉ origin.emit plan line := by
  have hreturn : CodePoint.lineFeed ≠ CodePoint.carriageReturn := by decide
  simp only [emit]
  cases (Record.on? line).bind (origin.change? plan) with
  | none => exact h
  | some changed =>
      simp only [lineFor, List.mem_append, not_or]
      refine ⟨changed.lineFeed_notMem_toLine, ?_⟩
      split
      · simp [hreturn]
      · exact List.not_mem_nil

end Origin

end IssueMerge
