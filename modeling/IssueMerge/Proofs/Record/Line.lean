import IssueMerge.Conflict.Marker
import IssueMerge.Proofs.Json.OneLine
import IssueMerge.Proofs.Record.RoundTrip
import IssueMerge.Proofs.Record.Schema

/-!
The line that a record is written on. It is one line and no marker. Of a record that was read and
then renamed and rewritten any number of times, in any order, it is the line of a record again: the
one that was written, for which the same line is written.
-/

namespace IssueMerge

open Json Outcome

namespace Record

theorem controlFree_toLine (r : Record) : Text.ControlFree r.toLine :=
  controlFree_print _

theorem lineFeed_notMem_toLine (r : Record) : CodePoint.lineFeed ∉ r.toLine :=
  r.controlFree_toLine.lineFeed_notMem

theorem kind_toLine (r : Record) {ending : Text} (he : ∀ c ∈ ending, c.isBlank = true) :
    LineKind.ofLine (r.toLine ++ ending) = .content := by
  obtain ⟨t, ht⟩ := r.toLine_enclosed
  have hopen : ∀ {c : CodePoint} (marker : Text), c ≠ CodePoint.ofChar '{' →
      (c :: marker).isPrefixOf r.toLine = false := by
    intro c marker hc
    rw [ht]
    exact Bool.and_eq_false_imp.mpr fun h => absurd (eq_of_beq h) hc
  have hdivider : r.toLine ≠ Text.ofString "=======" := by
    rw [ht]
    intro heq
    exact absurd (List.cons.inj heq).1 (by decide)
  have hblank : r.toLine ≠ [] := by simp [ht]
  have hmarkers : (Text.ofString "<<<<<<<").isPrefixOf r.toLine = false ∧
      (Text.ofString ">>>>>>>").isPrefixOf r.toLine = false ∧
      (Text.ofString "|||||||").isPrefixOf r.toLine = false :=
    ⟨hopen _ (by decide), hopen _ (by decide), hopen _ (by decide)⟩
  simp only [LineKind.ofLine, r.trim_toLine he, hblank, hmarkers, hdivider, Bool.false_eq_true,
    ↓reduceIte]

/-- A record that was read back is written as it was written before. -/
theorem toLine_written {r : Record} (h : r.Faithful) : r.written.toLine = r.toLine := by
  have hlist : field? "dependencies" r.toFields ≠ some .null := by
    rw [field?_dependencies_toFields]
    split <;> simp
  have hfields : r.written.toFields = r.toFields := by
    rw [toFields_of_ofJson (ofJson_toFields h), listed]
    split
    · next hnull => exact absurd hnull hlist
    · rfl
  rw [toLine, hfields, toLine]

/-- What is done to a record between reading and writing it. -/
inductive Edit where
  | rename (newId : Text)
  | rewrite (table : RemapTable) (exclude : List Text)

namespace Edit

/-- No id in the edit is empty. -/
def Proper : Edit → Prop
  | rename newId => newId ≠ []
  | rewrite table _ => ∀ p ∈ table, p.1 ≠ [] ∧ p.2 ≠ []

instance : DecidablePred Proper
  | rename newId => inferInstanceAs (Decidable (newId ≠ []))
  | rewrite table _ => inferInstanceAs (Decidable (∀ p ∈ table, p.1 ≠ [] ∧ p.2 ≠ []))

def apply (r : Record) : Edit → Record
  | rename newId => (r.renamed? newId).getD r
  | rewrite table exclude => (r.rewritten? (table.without exclude)).getD r

end Edit

variable {r : Record}

theorem Sound.apply (h : r.Sound) {edit : Edit} (hproper : edit.Proper) : (edit.apply r).Sound := by
  cases edit with
  | rename newId => exact h.rename hproper
  | rewrite table exclude =>
      rw [Edit.apply, rewritten?_getD]
      exact h.rewrite fun p hp => (hproper p (List.mem_of_mem_filter hp)).2

theorem Sound.foldl_apply (h : r.Sound) {edits : List Edit}
    (hproper : ∀ edit ∈ edits, edit.Proper) : (edits.foldl Edit.apply r).Sound := by
  induction edits generalizing r with
  | nil => exact h
  | cons edit edits ih =>
      obtain ⟨hfirst, hrest⟩ := List.forall_mem_cons.mp hproper
      exact ih (h.apply hfirst) hrest

end Record

/-- A record that was read from a line without floating-point numbers and then edited is written as
one line of content, without control characters. The record that is read from this line has the
same id, texts and edges, and is written as the same line. -/
theorem edited_record_reads_back {line : Text} {r : Record} (h : Record.parse line = .ok r)
    (hdecimal : (Json.obj r.raw).hasDecimal = false) {edits : List Record.Edit}
    (hproper : ∀ edit ∈ edits, edit.Proper) :
    let edited := edits.foldl Record.Edit.apply r
    edited.toLine.head? = some (CodePoint.ofChar '{') ∧ edited.toLine.ControlFree ∧
      LineKind.ofLine edited.toLine = .content ∧
      ∃ r', Record.parse edited.toLine = .ok r' ∧ edited.Alike r' ∧ r'.toLine = edited.toLine := by
  intro edited
  have hsound : edited.Sound := (Record.sound_of_parse h hdecimal).foldl_apply hproper
  have hkind : LineKind.ofLine (edited.toLine ++ []) = .content :=
    edited.kind_toLine fun _ hc => absurd hc List.not_mem_nil
  rw [List.append_nil] at hkind
  obtain ⟨t, ht⟩ := edited.toLine_enclosed
  refine ⟨by rw [ht]; rfl, edited.controlFree_toLine, hkind, edited.written, ?_, ?_, ?_⟩
  · exact Record.parse_toLine hsound
  · exact edited.alike_written
  · exact Record.toLine_written hsound.toFaithful

/-- A record with a surrogate on its own and a control character in its title, a name that stands
twice, and no list of edges. -/
def escapedLine : Text :=
  "\x7b\"title\":\"\\ud800\\u0007/\",\"id\":\"bd-0\",\"notes\":\"bd-2\"," ++
    "\"n\":[-0,\x7b\"\":true\x7d],\"id\":\"bd-1\",\"dependencies\":null\x7d"

theorem edited_record_reads_back_escapedLine : ∃ r,
    Record.parse escapedLine = .ok r ∧ (Json.obj r.raw).hasDecimal = false ∧
      let edits : List Record.Edit :=
        [.rename "bd-9", .rewrite [("bd-2", "bd-9"), ("bd-3", "bd-2")] ["bd-3"], .rename "bd-7"]
      let edited := edits.foldl Record.Edit.apply r
      (∀ edit ∈ edits, edit.Proper) ∧
        edited.toLine.head? = some (CodePoint.ofChar '{') ∧ edited.toLine.ControlFree ∧
        LineKind.ofLine edited.toLine = .content ∧
        ∃ r', Record.parse edited.toLine = .ok r' ∧ edited.Alike r' ∧
          r'.toLine = edited.toLine := by
  have hread : (Record.parse escapedLine).map (fun r => (Json.obj r.raw).hasDecimal) =
      .ok false := by decide +kernel
  obtain ⟨r, hr, hdecimal⟩ := map_eq_ok.mp hread
  have hproper : ∀ edit ∈ ([.rename "bd-9", .rewrite [("bd-2", "bd-9"), ("bd-3", "bd-2")] ["bd-3"],
      .rename "bd-7"] : List Record.Edit), edit.Proper := by
    decide
  exact ⟨r, hr, hdecimal, hproper, edited_record_reads_back hr hdecimal hproper⟩

end IssueMerge
