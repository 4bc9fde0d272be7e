import IssueMerge.Proofs.Conflict.Discarded
import IssueMerge.Proofs.Conflict.Scan
import IssueMerge.Proofs.Json.LongNumeral
import Mathlib.Data.List.TakeWhile

/-!
What stops the reading of a file. Among the lines that are read as records, the first that holds a
numeral that is too long stops the reading, and nothing else does: every other line that is no usable
record is passed over. The scan reads the lines on the two sides of conflicts, closed or not.
-/

namespace IssueMerge

open Outcome

theorem Text.trim_infix (t : Text) : t.trim <:+: t := by
  have hfront : t.trim <+: t.dropWhile CodePoint.isBlank := by
    rw [← List.reverse_suffix, Text.trim, List.reverse_reverse]
    exact List.dropWhile_suffix _
  exact hfront.isInfix.trans (List.dropWhile_suffix _).isInfix

namespace Record

/-- The numeral on a line that is too long and stops the reading of the line. -/
def tooLong? (line : Text) : Option Numeral.TooLong :=
  match ofLine? line with
  | .ok _ => none
  | .error e => some e

variable {line : Text} {e : Numeral.TooLong}

theorem ofLine?_eq (line : Text) : ofLine? line = (tooLong? line).elim (.ok (on? line)) .error := by
  simp only [on?, tooLong?]
  cases ofLine? line <;> rfl

theorem tooLong?_of_kind (h : LineKind.ofLine line ≠ .content) : tooLong? line = none := by
  simp only [tooLong?, ofLine?_of_kind h]

theorem parse_of_ofLine?_error (h : ofLine? line = .error e) :
    Json.parse line.trim = .error (.numeral e) := by
  simp only [ofLine?, parse] at h
  cases hparse : Json.parse line.trim with
  | ok v =>
      simp only [hparse] at h
      cases hrecord : ofJson v <;> simp [hrecord, Except.mapError] at h
  | error stop =>
      cases stop <;> simp [hparse] at h
      rw [h]

theorem overlong_of_tooLong? (h : tooLong? line = some e) :
    Numeral.Overlong Numeral.maxDigits line e := by
  have hline : ofLine? line = .error e := by
    rw [ofLine?_eq, h]
    rfl
  exact (Json.overlong_of_parse (parse_of_ofLine?_error hline)).mono line.trim_infix

/-- The line is refused as a record, for whatever reason, and it is no marker. -/
def Unusable (line : Text) : Prop :=
  isRefused line = true ∧ (LineKind.ofLine line = .blank ∨ LineKind.ofLine line = .content)

theorem ofLines_eq (lines : List Text) :
    ofLines lines = (lines.findSome? tooLong?).elim (.ok (lines.filterMap on?)) .error := by
  induction lines with
  | nil => rfl
  | cons line lines ih =>
      simp only [ofLines, ofLine?_eq, ih, List.findSome?_cons, List.filterMap_cons]
      cases tooLong? line with
      | some e => rfl
      | none =>
          cases lines.findSome? tooLong? with
          | some e => rfl
          | none => cases on? line <;> rfl

end Record

theorem legible_iff_tooLong? {line : Text} : Legible line ↔ Record.tooLong? line = none := by
  rw [legible_iff, Record.ofLine?_eq]
  cases Record.tooLong? line <;> simp

/-- The lines on the two sides of a conflict. -/
def sides (body : List Text) : List Text :=
  headPart body ++ basePart body

/-- What is found on the two sides when a line is added. Only lines of content count. -/
theorem filterMap_sides_append {α : Type} {g : Text → Option α}
    (hg : ∀ l, LineKind.ofLine l ≠ .content → g l = none) (body : List Text) (line : Text) :
    (sides (body ++ [line])).filterMap g = (sides body).filterMap g ++
      if placeBehind body ≠ .ancestor then (g line).toList else [] := by
  have hbase : placeBehind body = .head → basePart body = [] := by
    intro hhead
    have hnone : dividerPart body = [] := by
      refine List.dropWhile_eq_nil_iff.mpr fun l hl => ?_
      cases hstarts : startsBase l with
      | false => rfl
      | true =>
          have hends := placeBehind_eq_head.mp hhead l hl
          rw [endsHead_of_startsBase hstarts] at hends
          cases hends
    rw [basePart, hnone]
    rfl
  simp only [sides, List.filterMap_append, filterMap_headPart_append body line hg,
    filterMap_basePart_append]
  cases hplace : placeBehind body with
  | outside => exact absurd hplace (placeBehind_ne_outside body)
  | head => simp [hbase hplace]
  | ancestor | base => simp

/-- The lines of a stretch that stand on a side of a conflict, closed or not. -/
def Block.sides : Block → List Text
  | single _ => []
  | conflict _ body _ | unclosed _ body => IssueMerge.sides body

namespace Layout

/-- The lines of a file that stand on a side of a conflict. -/
def sides (lines : List Text) : List Text :=
  (ofLines lines).flatMap Block.sides

def Pending.sides : Pending → List Text
  | none => []
  | some (_, body) => IssueMerge.sides body

/-- The numeral on a line that stops the scan, which reads the line if it stands on a side of a
conflict. -/
def Pending.stop? (pending : Pending) (line : Text) : Option Numeral.TooLong :=
  if pending.onSide then Record.tooLong? line else none

theorem Pending.stop?_eq_none {pending : Pending} {line : Text} :
    pending.stop? line = none ↔ (pending.onSide = true → Legible line) := by
  rw [stop?, legible_iff_tooLong?]
  exact ite_eq_right_iff

theorem Pending.stop?_eq_some {pending : Pending} {line : Text} {e : Numeral.TooLong} :
    pending.stop? line = some e ↔ pending.onSide = true ∧ Record.tooLong? line = some e := by
  simp [stop?]

/-- All numerals that stop the scan on the lines behind what is open. -/
def stops : Pending → List Text → List Numeral.TooLong
  | _, [] => []
  | pending, line :: rest => (pending.stop? line).toList ++ stops (advance pending line).2 rest

theorem filterMap_sides_advance (pending : Pending) (line : Text) :
    ((advance pending line).1.flatMap Block.sides).filterMap Record.tooLong? ++
        (advance pending line).2.sides.filterMap Record.tooLong? =
      pending.sides.filterMap Record.tooLong? ++ (pending.stop? line).toList := by
  have hmarker : LineKind.ofLine line ≠ .content → Record.tooLong? line = none :=
    Record.tooLong?_of_kind
  cases pending with
  | none =>
      simp only [advance]
      split <;> rfl
  | some p =>
      by_cases hopen : LineKind.ofLine line = .opening
      · simp [advance, hopen, hmarker, Block.sides, Pending.sides, Pending.stop?, IssueMerge.sides,
          headPart, basePart, dividerPart]
      · by_cases hclose : LineKind.ofLine line = .closing
        · simp [advance, hclose, hmarker, Block.sides, Pending.sides, Pending.stop?]
        · have hsides := filterMap_sides_append (fun _ => Record.tooLong?_of_kind) p.2 line
          simp only [advance, hopen, hclose, ↓reduceIte, List.flatMap_nil, List.filterMap_nil,
            List.nil_append, Pending.sides, hsides, Pending.stop?, Pending.onSide]
          by_cases hplace : placeBehind p.2 = .ancestor <;> simp [hplace]

theorem filterMap_sides_divide (pending : Pending) (lines : List Text) :
    ((divide pending lines).flatMap Block.sides).filterMap Record.tooLong? =
      pending.sides.filterMap Record.tooLong? ++ stops pending lines := by
  induction lines generalizing pending with
  | nil => cases pending <;> simp [divide, leftOpen, Block.sides, Pending.sides, stops]
  | cons line lines ih =>
      rw [divide, List.flatMap_append, List.filterMap_append, ih, ← List.append_assoc,
        filterMap_sides_advance, List.append_assoc, stops]

theorem findSome?_sides (lines : List Text) :
    (sides lines).findSome? Record.tooLong? = (stops none lines).head? := by
  rw [← List.head?_filterMap, sides, ofLines, filterMap_sides_divide]
  rfl

end Layout

namespace Scan

variable {s : Scan} {start number : Nat} {line : Text} {pending : Layout.Pending}
  {e : Numeral.TooLong}

theorem step_of_stop? (h : s.Stands start pending) (hstop : pending.stop? line = some e) :
    s.step number line = .error e := by
  obtain ⟨hside, hlong⟩ := Layout.Pending.stop?_eq_some.mp hstop
  have hkind : LineKind.ofLine line = .content := by
    apply Classical.byContradiction
    intro hkind
    rw [Record.tooLong?_of_kind hkind] at hlong
    cases hlong
  cases pending with
  | none => cases hside
  | some p =>
      obtain ⟨hplace, hpending⟩ := h
      have hancestor : s.place ≠ .ancestor := by
        rw [hplace]
        exact of_decide_eq_true hside
      simp only [step, hkind, addContent, hpending, if_neg hancestor, Record.ofLine?_eq, hlong]
      rfl

/-- The scan finds the regions of the layout or stops at the first numeral that is too long. -/
theorem regions_run {lines : List Text} (h : s.Stands start pending)
    (hnumber : number = start + pending.lines.length) :
    regions <$> s.run number lines = (Layout.stops pending lines).head?.elim
      (.ok (s.regions ++ Layout.regionsFrom start (Layout.divide pending lines))) .error := by
  induction lines generalizing s start number pending with
  | nil => cases pending <;> simp [Layout.stops, Layout.divide, Layout.leftOpen, Layout.regionsFrom,
      Block.region?, run]
  | cons line lines ih =>
      rw [Layout.stops, run]
      cases hstop : pending.stop? line with
      | none =>
          obtain ⟨s₁, hstep, hs₁, hregions⟩ :=
            step_advance h hnumber (Layout.Pending.stop?_eq_none.mp hstop)
          have hcount := congrArg List.length (Layout.lines_advance pending line)
          simp only [List.length_append, List.length_singleton] at hcount
          rw [hstep, Option.toList_none, List.nil_append, Layout.divide, Layout.regionsFrom_append,
            ← List.append_assoc, ← hregions]
          exact ih hs₁ (by omega)
      | some e =>
          rw [step_of_stop? h hstop]
          rfl

theorem step_of_unusable (s : Scan) (number : Nat) (h : Record.Unusable line) :
    s.step number line = .ok s := by
  obtain ⟨hrefused, hkind⟩ := h
  cases hkind with
  | inl hblank =>
      have hstay : s.place.after .blank = s.place := by cases s.place <;> rfl
      simp only [step, hblank, hstay]
  | inr hcontent =>
      simp only [step, hcontent, addContent, Record.ofLine?_of_isRefused hrefused]
      cases s.pending with
      | none => rfl
      | some region => exact ite_self (Except.ok s)

theorem run_append (s : Scan) (number : Nat) (front back : List Text) :
    s.run number (front ++ back) =
      s.run number front >>= fun s' => s'.run (number + front.length) back := by
  induction front generalizing s number with
  | nil => rfl
  | cons line front ih =>
      rw [List.cons_append, run, run, List.length_cons, Nat.add_comm front.length,
        ← Nat.add_assoc]
      cases s.step number line with
      | error e => rfl
      | ok s₁ => exact ih s₁ (number + 1)

end Scan

variable {before behind : List Text} {line line' : Text}

/-- The scan does not tell an unusable line from another one in its place. -/
theorem Region.ofLines_replaced (h : Record.Unusable line) (h' : Record.Unusable line') :
    Region.ofLines (before ++ line' :: behind) = Region.ofLines (before ++ line :: behind) := by
  simp only [Region.ofLines, Scan.ofLines, Scan.run_append, Scan.run, Scan.step_of_unusable _ _ h,
    Scan.step_of_unusable _ _ h']

/-- The scan finds the same records without an unusable line. -/
theorem Region.ofLines_removed (h : Record.Unusable line) :
    List.map Region.unnumbered <$> Region.ofLines (before ++ behind) =
      List.map Region.unnumbered <$> Region.ofLines (before ++ line :: behind) := by
  have hrun : Scan.unnumbered <$> Scan.run {} 1 (before ++ behind) =
      Scan.unnumbered <$> Scan.run {} 1 (before ++ line :: behind) := by
    rw [Scan.run_unnumbered rfl, Scan.run_unnumbered rfl, List.foldlM_append, List.foldlM_append]
    simp only [List.foldlM_cons, Scan.step_of_unusable _ _ h]
    rfl
  exact Region.unnumbered_of_run hrun

theorem Record.ofLines_removed (h : Record.isRefused line = true) :
    Record.ofLines (before ++ behind) = Record.ofLines (before ++ line :: behind) := by
  have hnone := Record.ofLine?_of_isRefused h
  have hlong : Record.tooLong? line = none := by simp only [Record.tooLong?, hnone]
  simp only [Record.ofLines_eq, List.findSome?_append, List.findSome?_cons, hlong,
    List.filterMap_append, List.filterMap_cons, Record.on?_of_ofLine? hnone]

theorem Layout.mem_of_mem_sides {lines : List Text} (h : line ∈ sides lines) : line ∈ lines := by
  have hbody : ∀ {body : List Text}, line ∈ IssueMerge.sides body → line ∈ body := by
    intro body hline
    cases List.mem_append.mp hline with
    | inl hhead => exact (List.takeWhile_sublist _).subset hhead
    | inr hbase => exact (List.dropWhile_sublist _).subset (List.mem_of_mem_tail hbase)
  obtain ⟨block, hblock, hline⟩ := List.mem_flatMap.mp h
  rw [← flatMap_lines lines]
  refine List.mem_flatMap.mpr ⟨block, hblock, ?_⟩
  cases block with
  | single _ => exact absurd hline List.not_mem_nil
  | conflict opening body closing => simp [Block.lines, hbody hline]
  | unclosed opening body => exact List.mem_cons_of_mem opening (hbody hline)

/-- What the reading of a file comes to. -/
structure Examination (lines : List Text) : Prop where
  /-- The scan finds the regions of the layout, unless a line on a side of a conflict holds a numeral
  that is too long. -/
  regions : Region.ofLines lines = ((Layout.sides lines).findSome? Record.tooLong?).elim
    (.ok (Layout.regionsFrom 1 (Layout.ofLines lines))) .error
  /-- All records of the file are found, unless any line holds such a numeral. -/
  records : Record.ofLines lines = (lines.findSome? Record.tooLong?).elim
    (.ok (lines.filterMap Record.on?)) .error
  /-- Such a numeral has more digits than may be read. -/
  overlong : ∀ line ∈ lines, ∀ e, Record.tooLong? line = some e →
    Numeral.Overlong Numeral.maxDigits line e
  /-- Without so many digits in a row there are regions and records. -/
  found : (∀ line ∈ lines, ∀ e, ¬ Numeral.Overlong Numeral.maxDigits line e) →
    Region.ofLines lines = .ok (Layout.regionsFrom 1 (Layout.ofLines lines)) ∧
      Record.ofLines lines = .ok (lines.filterMap Record.on?)
  /-- A line that is refused as a record may stand in the place of another, if both are no markers, -/
  replaced : ∀ {before behind line line'}, lines = before ++ line :: behind → Record.Unusable line →
    Record.Unusable line' → Region.ofLines (before ++ line' :: behind) = Region.ofLines lines
  /-- and without it the records are the same, only on other lines. -/
  removed : ∀ {before behind line}, lines = before ++ line :: behind → Record.Unusable line →
    List.map Region.unnumbered <$> Region.ofLines (before ++ behind) =
      List.map Region.unnumbered <$> Region.ofLines lines
  /-- The records of the file are the same without it, marker or not. -/
  removedRecords : ∀ {before behind line}, lines = before ++ line :: behind →
    Record.isRefused line = true → Record.ofLines (before ++ behind) = Record.ofLines lines

theorem Region.ofLines_eq_elim (lines : List Text) :
    Region.ofLines lines = ((Layout.sides lines).findSome? Record.tooLong?).elim
      (.ok (Layout.regionsFrom 1 (Layout.ofLines lines))) .error := by
  have hstart : Scan.Stands {} 1 none := ⟨rfl, rfl⟩
  rw [Layout.findSome?_sides]
  exact Scan.regions_run hstart rfl

/-- Every file is read in this way, whatever its lines are. -/
theorem stopped_only_by_numerals (lines : List Text) : Examination lines where
  regions := Region.ofLines_eq_elim lines
  records := Record.ofLines_eq lines
  overlong _ _ _ h := Record.overlong_of_tooLong? h
  found hshort := by
    have hnone : ∀ line ∈ lines, Record.tooLong? line = none := by
      intro line hline
      cases hlong : Record.tooLong? line with
      | none => rfl
      | some e => exact absurd (Record.overlong_of_tooLong? hlong) (hshort line hline e)
    have hsides := List.findSome?_eq_none_iff.mpr fun line hline =>
      hnone line (Layout.mem_of_mem_sides hline)
    rw [Region.ofLines_eq_elim, Record.ofLines_eq, hsides, List.findSome?_eq_none_iff.mpr hnone]
    exact ⟨rfl, rfl⟩
  replaced hlines h h' := hlines ▸ Region.ofLines_replaced h h'
  removed hlines h := hlines ▸ Region.ofLines_removed h
  removedRecords hlines h := hlines ▸ Record.ofLines_removed h

/-- A conflict whose head side holds an integer of 4301 digits. -/
def longIntegerLines : List Text :=
  ["<<<<<<< HEAD",
    "\x7b\"id\":\"bd-1\",\"estimate\":" ++ List.replicate 4301 (CodePoint.ofChar '1') ++ "\x7d",
    "=======",
    ">>>>>>> feature"]

/-- A line that is no usable record leads to no regions and no records at all. -/
theorem nothing_found_longIntegerLines :
    (∀ regions, Region.ofLines longIntegerLines ≠ .ok regions) ∧
      ∀ records, Record.ofLines longIntegerLines ≠ .ok records := by
  have hregions : (Region.ofLines longIntegerLines).isOk = false := by decide +kernel
  have hrecords : (Record.ofLines longIntegerLines).isOk = false := by decide +kernel
  constructor
  · intro regions h
    rw [h] at hregions
    cases hregions
  · intro records h
    rw [h] at hrecords
    cases hrecords

end IssueMerge
