import IssueMerge.Conflict.Marker
import IssueMerge.Issue.Record
import IssueMerge.Proofs.Json.Scalar

/-!
Records on lines. A line with a marker and a blank line hold no record, so the records of a file are
those on its lines of content.
-/

namespace IssueMerge

open Json Outcome

namespace Record

/-- The record on a line, if there is one and reading does not stop. -/
def on? (line : Text) : Option Record :=
  match ofLine? line with
  | .ok r => r
  | .error _ => none

end Record

/-- Reading the line gives a record or the refusal of one: no integer on it is too long. -/
def Legible (line : Text) : Prop :=
  ∀ e, Record.parse line.trim ≠ .error (.numeral e)

theorem legible_iff {line : Text} : Legible line ↔ Record.ofLine? line = .ok (Record.on? line) := by
  simp only [Legible, Record.on?, Record.ofLine?]
  cases Record.parse line.trim with
  | ok r => simp
  | error e => cases e <;> simp

instance (line : Text) : Decidable (Legible line) :=
  decidable_of_iff ((Record.ofLine? line).isOk = true) <| by
    simp only [Legible, Record.ofLine?]
    cases Record.parse line.trim with
    | ok r => simp [Except.isOk, Except.toBool]
    | error e => cases e <;> simp [Except.isOk, Except.toBool]

theorem Legible.ofLine? {line : Text} (h : Legible line) :
    Record.ofLine? line = .ok (Record.on? line) :=
  legible_iff.mp h

theorem Legible.of_ofLine? {line : Text} {found : Option Record}
    (h : Record.ofLine? line = .ok found) : Legible line := by
  rw [legible_iff, Record.on?, h]

namespace Record

theorem on?_of_ofLine? {line : Text} {found : Option Record} (h : ofLine? line = .ok found) :
    on? line = found := by
  simp only [on?, h]

theorem on?_eq_some {line : Text} {r : Record} :
    on? line = some r ↔ ofLine? line = .ok (some r) := by
  simp only [on?]
  cases ofLine? line with
  | ok found => simp
  | error e => simp

/-- The records among some lines are found when all lines can be read. -/
theorem ofLines_eq_ok {lines : List Text} {records : List Record} :
    ofLines lines = .ok records ↔ (∀ line ∈ lines, Legible line) ∧
      records = lines.filterMap on? := by
  induction lines generalizing records with
  | nil => simp [ofLines, eq_comm]
  | cons line lines ih =>
      rw [List.forall_mem_cons]
      constructor
      · intro h
        obtain ⟨found, hfound, h⟩ := bind_eq_ok.mp h
        obtain ⟨rest, hrest, h⟩ := bind_eq_ok.mp h
        cases h
        obtain ⟨hlegible, rfl⟩ := ih.mp hrest
        have hon := on?_of_ofLine? hfound
        refine ⟨⟨.of_ofLine? hfound, hlegible⟩, ?_⟩
        rw [List.filterMap_cons, hon]
        cases found <;> rfl
      · rintro ⟨⟨hline, hlines⟩, rfl⟩
        simp only [ofLines, hline.ofLine?, ih.mpr ⟨hlines, rfl⟩, bind, Except.bind,
          List.filterMap_cons]
        cases on? line <;> rfl

end Record

namespace Json

theorem parse_of_marker {c : CodePoint} (t : Text)
    (hc : c ∈ [CodePoint.ofChar '<', CodePoint.ofChar '>', CodePoint.ofChar '|',
      CodePoint.ofChar '=']) : ∃ f l, parse (c :: t) = .error (.malformed f l) := by
  have hchar : c ≠ CodePoint.ofChar '"' ∧ c ≠ CodePoint.ofChar '[' ∧ c ≠ CodePoint.ofChar '{' ∧
      c ≠ CodePoint.ofChar '-' ∧ c ≠ CodePoint.ofChar '0' ∧ c.isDigit = false ∧
      isSpace c = false ∧ c.val ≠ 0xFEFF ∧ ∀ w ∈ words, w.1 ≠ [] ∧ w.1.head? ≠ some c := by
    revert c
    decide
  obtain ⟨hquote, hbracket, hbrace, hminus, hzero, hdigit, hspace, hmark, hwords⟩ := hchar
  have hatom : atom Numeral.maxDigits (c :: t) = number Numeral.maxDigits (c :: t) := by
    refine atom_of_no_word ?_
    rintro ⟨w, v⟩ hw s hs
    obtain ⟨hne, hhead⟩ := hwords (w, v) hw
    cases w with
    | nil => exact hne rfl
    | cons d ds => exact hhead (by rw [(List.cons.inj hs).1]; rfl)
  have hnumber : number Numeral.maxDigits (c :: t) = .error (.fault .value (c :: t)) := by
    simp [number, takeSign, takeWhole, takeDigits, hminus, hzero, hdigit]
  have hvalue : value Numeral.maxDigits 1000 (c :: t) = .error (.fault .value (c :: t)) := by
    simp only [value, valueWith, hquote, hbracket, hbrace, ↓reduceIte, hatom, hnumber]
  have hdocument : document {} (c :: t) = .error (.fault .value (c :: t)) := by
    have hskip : skipSpace (c :: t) = c :: t := List.dropWhile_cons_of_neg (by simp [hspace])
    simp only [document, List.head?_cons, Option.some.injEq, hskip, hvalue, bind, Except.bind]
    exact if_neg fun h => hmark (congrArg CodePoint.val h)
  simp only [parse, parseWith, hdocument]
  exact ⟨_, _, rfl⟩

end Json

namespace Record

theorem ofLine?_of_malformed {line : Text} {f : Fault} {l : Location}
    (h : Json.parse line.trim = .error (.malformed f l)) : ofLine? line = .ok none := by
  simp only [ofLine?, parse, h]

theorem ofLine?_of_kind {line : Text} (h : LineKind.ofLine line ≠ .content) :
    ofLine? line = .ok none := by
  have hstart : ∀ (marker : Text), marker ∈ ([("<<<<<<<" : Text), ">>>>>>>", "|||||||", "======="]
      : List Text) → marker.isPrefixOf line.trim = true → ofLine? line = .ok none := by
    intro marker hmarker hprefix
    obtain ⟨rest, hrest⟩ := List.isPrefixOf_iff_prefix.mp hprefix
    obtain ⟨c, t, rfl, hc⟩ : ∃ c t, marker = c :: t ∧ c ∈ [CodePoint.ofChar '<',
        CodePoint.ofChar '>', CodePoint.ofChar '|', CodePoint.ofChar '='] := by
      simp only [List.mem_cons, List.not_mem_nil, or_false] at hmarker
      rcases hmarker with rfl | rfl | rfl | rfl <;> exact ⟨_, _, rfl, by decide⟩
    obtain ⟨f, l, hparse⟩ := parse_of_marker (t ++ rest) hc
    rw [← List.cons_append, hrest] at hparse
    exact ofLine?_of_malformed hparse
  simp only [LineKind.ofLine] at h
  split at h
  · next hblank =>
    have hparse : ∃ f l, Json.parse line.trim = .error (.malformed f l) := by
      rw [hblank]
      exact ⟨_, _, rfl⟩
    obtain ⟨f, l, hparse⟩ := hparse
    exact ofLine?_of_malformed hparse
  · split at h
    · next hp => exact hstart _ (by simp) hp
    · split at h
      · next hp => exact hstart _ (by simp) hp
      · split at h
        · next hp => exact hstart _ (by simp) hp
        · split at h
          · next heq => exact hstart "=======" (by simp) (by rw [heq]; decide)
          · exact absurd rfl h

theorem on?_of_kind {line : Text} (h : LineKind.ofLine line ≠ .content) : on? line = none :=
  on?_of_ofLine? (ofLine?_of_kind h)

theorem kind_of_on? {line : Text} (h : (on? line).isSome = true) :
    LineKind.ofLine line = .content := by
  apply Classical.byContradiction
  intro hk
  rw [on?_of_kind hk] at h
  cases h

end Record

end IssueMerge
