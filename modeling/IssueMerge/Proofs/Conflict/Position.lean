import IssueMerge.Proofs.Conflict.Division
import IssueMerge.Proofs.Conflict.Scan

/-!
Conflicts by the numbers of lines. Two lines bound a conflict when the first opens one, the second
closes one, and no line between them does either. Where a line between them stands is a matter of the
markers in front of it: on the base side if one of them is a divider, else in the text of ancestors if
one of them says so, else on the head side. The scan finds just these conflicts and their records.
-/

namespace IssueMerge

/-- The line with a number, counted from 1. -/
def lineAt (lines : List Text) : Nat → Option Text
  | 0 => none
  | n + 1 => lines[n]?

def kindAt (lines : List Text) (number : Nat) : Option LineKind :=
  (lineAt lines number).map LineKind.ofLine

/-- The lines with these numbers are the two ends of a conflict. -/
structure Bounds (lines : List Text) (first last : Nat) : Prop where
  lt : first < last
  opening : kindAt lines first = some .opening
  closing : kindAt lines last = some .closing
  inner : ∀ number, first < number → number < last →
    kindAt lines number ≠ some .opening ∧ kindAt lines number ≠ some .closing

instance (lines : List Text) (first last : Nat) : Decidable (Bounds lines first last) :=
  decidable_of_iff (first < last ∧ kindAt lines first = some .opening ∧
      kindAt lines last = some .closing ∧ ∀ number < last, first < number →
        kindAt lines number ≠ some .opening ∧ kindAt lines number ≠ some .closing)
    ⟨fun h => ⟨h.1, h.2.1, h.2.2.1, fun number hfirst hlast => h.2.2.2 number hlast hfirst⟩,
      fun h => ⟨h.lt, h.opening, h.closing, fun number hlast hfirst =>
        h.inner number hfirst hlast⟩⟩

/-- Where a line stands in the conflict that the line numbered `first` opens. -/
def placeAt (lines : List Text) (first number : Nat) : Place :=
  if ∃ m < number, first < m ∧ kindAt lines m = some .divider then .base
  else if ∃ m < number, first < m ∧ kindAt lines m = some .ancestor then .ancestor
  else .head

/-- The records on the lines of content between two lines that stand at a place. -/
def recordsAt (lines : List Text) (place : Place) (first last : Nat) : List Record :=
  (List.range' (first + 1) (last - first - 1)).filterMap fun number =>
    if kindAt lines number = some .content ∧ placeAt lines first number = place then
      (lineAt lines number).bind Record.on?
    else none

section

variable {lines front back body : List Text} {opening closing line : Text}

theorem lineAt_append (front back : List Text) (n : Nat) :
    lineAt (front ++ back) (front.length + n + 1) = lineAt back (n + 1) := by
  simp only [lineAt]
  rw [List.getElem?_append_right (Nat.le_add_right _ n), Nat.add_sub_cancel_left]

theorem exists_of_kindAt {number : Nat} {kind : LineKind} (h : kindAt lines number = some kind) :
    ∃ front line back, lines = front ++ line :: back ∧ number = front.length + 1 ∧
      LineKind.ofLine line = kind := by
  obtain ⟨line, hline, hkind⟩ := Option.map_eq_some_iff.mp h
  cases number with
  | zero => cases hline
  | succ n =>
      obtain ⟨hn, hget⟩ := List.getElem?_eq_some_iff.mp hline
      refine ⟨lines.take n, line, lines.drop (n + 1), ?_, ?_, hkind⟩
      · rw [← hget, ← List.drop_eq_getElem_cons hn, List.take_append_drop]
      · rw [List.length_take_of_le (Nat.le_of_lt hn)]

theorem kindAt_behind (front : List Text) (opening : Text) (back : List Text) (n : Nat) :
    kindAt (front ++ opening :: back) (front.length + 1 + (n + 1)) = kindAt back (n + 1) := by
  have happend := lineAt_append (front ++ [opening]) back n
  rw [List.append_assoc, List.singleton_append, List.length_append, List.length_singleton]
    at happend
  rw [kindAt, kindAt, ← Nat.add_assoc, happend]

theorem lineAt_of_append (front : List Text) (line : Text) (back : List Text) :
    lineAt (front ++ line :: back) (front.length + 1) = some line :=
  lineAt_append front (line :: back) 0

theorem kindAt_of_append (front : List Text) (line : Text) (back : List Text) :
    kindAt (front ++ line :: back) (front.length + 1) = some (LineKind.ofLine line) := by
  rw [kindAt, lineAt_of_append]
  rfl

theorem exists_kindAt_iff (front : List Text) (opening : Text) (body back : List Text)
    (kind : LineKind) :
    (∃ m < front.length + body.length + 2, front.length + 1 < m ∧
        kindAt (front ++ opening :: (body ++ back)) m = some kind) ↔
      ∃ line ∈ body, LineKind.ofLine line = kind := by
  constructor
  · rintro ⟨m, hlast, hfirst, hm⟩
    obtain ⟨n, rfl⟩ : ∃ n, m = front.length + 1 + (n + 1) := ⟨m - front.length - 2, by omega⟩
    rw [kindAt_behind] at hm
    obtain ⟨line, hline, hkind⟩ := Option.map_eq_some_iff.mp hm
    have hlt : n < body.length := by omega
    have hget : body[n]? = some line := by
      rw [← hline]
      exact (List.getElem?_append_left hlt).symm
    exact ⟨line, List.mem_of_getElem? hget, hkind⟩
  · rintro ⟨line, hline, hkind⟩
    obtain ⟨first, rest, rfl⟩ := List.append_of_mem hline
    refine ⟨front.length + 1 + (first.length + 1), ?_, by omega, ?_⟩
    · simp only [List.length_append, List.length_cons]
      omega
    · rw [kindAt_behind, List.append_assoc, List.cons_append, kindAt_of_append, hkind]

/-- Two lines bound a conflict exactly when they stand in the file with lines between them that
neither open nor close one. -/
theorem bounds_iff {first last : Nat} : Bounds lines first last ↔
    ∃ front opening body closing back, lines = front ++ (opening :: body ++ closing :: back) ∧
      (Block.conflict opening body closing).Formed ∧ first = front.length + 1 ∧
      last = front.length + body.length + 2 := by
  constructor
  · intro h
    obtain ⟨front, opening, behind, rfl, rfl, hopen⟩ := exists_of_kindAt h.opening
    have hlt := h.lt
    obtain ⟨n, rfl⟩ : ∃ n, last = front.length + 1 + (n + 1) :=
      ⟨last - front.length - 2, by omega⟩
    have hclosing := h.closing
    rw [kindAt_behind] at hclosing
    obtain ⟨body, closing, back, rfl, hn, hclose⟩ := exists_of_kindAt hclosing
    have hlength : n = body.length := Nat.succ.inj hn
    subst hlength
    refine ⟨front, opening, body, closing, back, rfl, ⟨hopen, ?_, hclose⟩, rfl, by omega⟩
    intro line hline
    obtain ⟨first, rest, rfl⟩ := List.append_of_mem hline
    have hinner := h.inner (front.length + 1 + (first.length + 1)) (by omega)
      (by simp only [List.length_append, List.length_cons]; omega)
    rw [kindAt_behind, List.append_assoc, List.cons_append, kindAt_of_append] at hinner
    exact ⟨fun hk => hinner.1 (congrArg some hk), fun hk => hinner.2 (congrArg some hk)⟩
  · rintro ⟨front, opening, body, closing, back, rfl, ⟨hopen, hbody, hclose⟩, rfl, rfl⟩
    rw [List.cons_append]
    refine ⟨by omega, ?_, ?_, ?_⟩
    · rw [kindAt_of_append, hopen]
    · have hlast : front.length + body.length + 2 = front.length + 1 + (body.length + 1) := by omega
      rw [hlast, kindAt_behind, kindAt_of_append, hclose]
    · intro number hfirst hlast
      have hnone : ∀ kind, (∀ line ∈ body, LineKind.ofLine line ≠ kind) →
          kindAt (front ++ opening :: (body ++ closing :: back)) number ≠ some kind := by
        intro kind hkind hnumber
        obtain ⟨line, hline, heq⟩ := (exists_kindAt_iff front opening body (closing :: back) kind).mp
          ⟨number, hlast, hfirst, hnumber⟩
        exact hkind line hline heq
      exact ⟨hnone .opening fun line hline => (hbody line hline).1,
        hnone .closing fun line hline => (hbody line hline).2⟩

/-- The markers in front of a line say where it stands. -/
theorem placeAt_eq (front : List Text) (opening : Text) (body back : List Text) :
    placeAt (front ++ opening :: (body ++ back)) (front.length + 1)
      (front.length + body.length + 2) = placeBehind body := by
  have hdivider : (∃ line ∈ body, LineKind.ofLine line = .divider) ↔
      body.any startsBase = true := by
    simp only [List.any_eq_true, startsBase, decide_eq_true_eq]
  simp only [placeAt, exists_kindAt_iff, placeBehind, hdivider]
  split
  · rfl
  · next hbase =>
    have hancestor : (∃ line ∈ body, LineKind.ofLine line = .ancestor) ↔
        body.any endsHead = true := by
      simp only [List.any_eq_true, endsHead, Bool.or_eq_true, decide_eq_true_eq]
      constructor
      · rintro ⟨line, hline, hk⟩
        exact ⟨line, hline, .inl hk⟩
      · rintro ⟨line, hline, hk⟩
        refine ⟨line, hline, hk.resolve_right fun hd => hbase ?_⟩
        exact hdivider.mp ⟨line, hline, hd⟩
    simp only [hancestor]

/-- The records at a place, when `part` gives them line by line. -/
theorem recordsAt_eq (place : Place) (part : List Text → List Record) (hnil : part [] = [])
    (happend : ∀ body line, part (body ++ [line]) =
      part body ++ if placeBehind body = place then (Record.on? line).toList else [])
    (front : List Text) (opening : Text) (body back : List Text) :
    recordsAt (front ++ opening :: (body ++ back)) place (front.length + 1)
      (front.length + body.length + 2) = part body := by
  have hcount : ∀ n, front.length + n + 2 - (front.length + 1) - 1 = n := by omega
  rw [recordsAt, hcount]
  induction body using List.reverseRecOn generalizing back with
  | nil => exact hnil.symm
  | append_singleton body line ih =>
      have hline : lineAt (front ++ opening :: (body ++ line :: back))
          (front.length + 1 + 1 + body.length) = some line := by
        have hlast : front.length + 1 + 1 + body.length =
            (front ++ opening :: body).length + 1 := by
          simp only [List.length_append, List.length_cons]
          omega
        have hsplit : front ++ opening :: (body ++ line :: back) =
            (front ++ opening :: body) ++ line :: back := by simp
        rw [hsplit, hlast, lineAt_of_append]
      have hplace := placeAt_eq front opening body (line :: back)
      have hnumber : front.length + body.length + 2 = front.length + 1 + 1 + body.length := by omega
      rw [hnumber] at hplace
      rw [List.append_assoc, List.singleton_append, List.length_append, List.length_singleton,
        List.range'_1_concat, List.filterMap_append, ih (line :: back), happend]
      congr 1
      simp only [List.filterMap_cons, List.filterMap_nil, kindAt, hline, hplace, Option.map_some,
        Option.some.injEq, Option.bind_some]
      by_cases hk : LineKind.ofLine line = .content
      · simp only [hk, true_and]
        by_cases hplaced : placeBehind body = place
        · simp only [hplaced, ↓reduceIte]
          cases Record.on? line <;> rfl
        · simp only [hplaced, ↓reduceIte]
      · simp only [hk, false_and, ↓reduceIte, Record.on?_of_kind hk, Option.toList_none, ite_self]

end

namespace Layout

theorem mem_regionsFrom {r : Region} {number : Nat} {layout : Layout} :
    r ∈ regionsFrom number layout ↔ ∃ front block back, layout = front ++ block :: back ∧
      block.region? (number + (front.flatMap Block.lines).length) = some r := by
  constructor
  · intro h
    induction layout generalizing number with
    | nil => cases h
    | cons block rest ih =>
        cases List.mem_append.mp h with
        | inl h => exact ⟨[], block, rest, rfl, Option.mem_toList.mp h⟩
        | inr h =>
            obtain ⟨front, found, back, rfl, hr⟩ := ih h
            refine ⟨block :: front, found, back, rfl, ?_⟩
            rw [List.flatMap_cons, List.length_append, ← Nat.add_assoc]
            exact hr
  · rintro ⟨front, block, back, rfl, hr⟩
    rw [regionsFrom_append, regionsFrom]
    apply List.mem_append_right
    apply List.mem_append_left
    exact Option.mem_toList.mpr hr

/-- The regions of a file are its conflicts with both markers. -/
theorem mem_regions_iff {r : Region} {lines : List Text} :
    r ∈ regionsFrom 1 (ofLines lines) ↔ ∃ front opening body closing back,
      lines = front ++ (opening :: body ++ closing :: back) ∧
        (Block.conflict opening body closing).Formed ∧ r = {
          openLine := front.length + 1
          closeLine := front.length + body.length + 2
          head := (headPart body).filterMap Record.on?
          base := (basePart body).filterMap Record.on? } := by
  rw [mem_regionsFrom]
  constructor
  · rintro ⟨first, block, rest, hlayout, hr⟩
    cases block with
    | single _ | unclosed _ _ => cases hr
    | conflict opening body closing =>
        obtain ⟨hlines, hformed⟩ := conflict_iff.mp ⟨first, rest, hlayout, rfl, rfl⟩
        refine ⟨_, opening, body, closing, _, hlines, hformed, ?_⟩
        rw [← Option.some.inj hr, Region.mk.injEq]
        exact ⟨by omega, by omega, rfl, rfl⟩
  · rintro ⟨front, opening, body, closing, back, hlines, hformed, rfl⟩
    obtain ⟨first, rest, hlayout, rfl, _⟩ := conflict_iff.mpr ⟨hlines, hformed⟩
    refine ⟨first, _, rest, hlayout, ?_⟩
    rw [Block.region?, Option.some.injEq, Region.mk.injEq]
    exact ⟨by omega, by omega, rfl, rfl⟩

theorem le_openLine {r : Region} {number : Nat} {layout : Layout}
    (h : r ∈ regionsFrom number layout) : number ≤ r.openLine := by
  obtain ⟨front, block, back, _, hr⟩ := mem_regionsFrom.mp h
  cases block with
  | single _ | unclosed _ _ => cases hr
  | conflict opening body closing =>
      cases hr
      exact Nat.le_add_right number _

theorem pairwise_regionsFrom (number : Nat) (layout : Layout) :
    (regionsFrom number layout).Pairwise fun r r' => r.closeLine < r'.openLine := by
  induction layout generalizing number with
  | nil => exact .nil
  | cons block rest ih =>
      rw [regionsFrom, List.pairwise_append]
      refine ⟨?_, ih _, ?_⟩
      · cases block <;> simp [Block.region?]
      · intro r hr r' hr'
        have hbehind := le_openLine hr'
        cases block with
        | single _ | unclosed _ _ => cases hr
        | conflict opening body closing =>
            cases List.mem_singleton.mp hr
            simp only [Block.lines, List.length_append, List.length_cons, List.length_nil] at hbehind
            change number + body.length + 1 < r'.openLine
            omega

end Layout

/-- The scan of a file that can be read finds, in the order of their lines, exactly the conflicts that
lines with both markers bound; no two of them share a line. The records of a region are those on its
lines of content, each on the side where its line stands. -/
theorem regions_by_position {lines : List Text} (h : ∀ line ∈ lines, Legible line) :
    ∃ regions, Region.ofLines lines = .ok regions ∧
      regions.Pairwise (fun r r' => r.closeLine < r'.openLine) ∧
      (∀ first last, (∃ r ∈ regions, r.openLine = first ∧ r.closeLine = last) ↔
        Bounds lines first last) ∧
      ∀ r ∈ regions, r.head = recordsAt lines .head r.openLine r.closeLine ∧
        r.base = recordsAt lines .base r.openLine r.closeLine := by
  refine ⟨_, Region.ofLines_eq h, Layout.pairwise_regionsFrom 1 _, ?_, ?_⟩
  · intro first last
    rw [bounds_iff]
    constructor
    · rintro ⟨r, hr, rfl, rfl⟩
      obtain ⟨front, opening, body, closing, back, hlines, hformed, rfl⟩ :=
        Layout.mem_regions_iff.mp hr
      exact ⟨front, opening, body, closing, back, hlines, hformed, rfl, rfl⟩
    · rintro ⟨front, opening, body, closing, back, hlines, hformed, rfl, rfl⟩
      exact ⟨_, Layout.mem_regions_iff.mpr
        ⟨front, opening, body, closing, back, hlines, hformed, rfl⟩, rfl, rfl⟩
  · intro r hr
    obtain ⟨front, opening, body, closing, back, rfl, _, rfl⟩ := Layout.mem_regions_iff.mp hr
    have hhead := recordsAt_eq .head (fun body => (headPart body).filterMap Record.on?) rfl
      (fun body line => filterMap_headPart_append body line fun l hl => Record.on?_of_kind hl)
      front opening body (closing :: back)
    have hbase := recordsAt_eq .base (fun body => (basePart body).filterMap Record.on?) rfl
      (fun body line => filterMap_basePart_append body line) front opening body (closing :: back)
    exact ⟨hhead.symm, hbase.symm⟩

/-- A conflict that is cut off, one with every kind of marker in it, and a closing marker too many. -/
def crossedLines : List Text :=
  ["<<<<<<< a", "=======",
    "<<<<<<< b",
    "\x7b\"id\":\"bd-1\"\x7d",
    "||||||| c",
    "\x7b\"id\":\"bd-2\"\x7d",
    "=======",
    "\x7b\"id\":\"bd-3\"\x7d",
    "||||||| d", "no record", "=======", "",
    "\x7b\"id\":\"bd-4\"\x7d",
    ">>>>>>> b",
    ">>>>>>> a"]

theorem regions_by_position_crossedLines :
    (∀ line ∈ crossedLines, Legible line) ∧ Bounds crossedLines 3 14 ∧
      ∃ regions r, Region.ofLines crossedLines = .ok regions ∧ r ∈ regions ∧
        r.openLine = 3 ∧ r.closeLine = 14 ∧ r.headIds = (["bd-1"] : List Text) ∧
        r.baseIds = (["bd-3", "bd-4"] : List Text) := by
  have hlegible : ∀ line ∈ crossedLines, Legible line := by decide +kernel
  have hbounds : Bounds crossedLines 3 14 := by decide +kernel
  have hheads : (recordsAt crossedLines .head 3 14).map Record.id = (["bd-1"] : List Text) := by
    decide +kernel
  have hbases : (recordsAt crossedLines .base 3 14).map Record.id =
      (["bd-3", "bd-4"] : List Text) := by decide +kernel
  obtain ⟨regions, hregions, _, hiff, hsides⟩ := regions_by_position hlegible
  obtain ⟨r, hr, hopen, hclose⟩ := (hiff 3 14).mpr hbounds
  obtain ⟨hhead, hbase⟩ := hsides r hr
  rw [hopen, hclose] at hhead hbase
  refine ⟨hlegible, hbounds, regions, r, hregions, hr, hopen, hclose, ?_, ?_⟩
  · rw [Region.headIds, hhead, hheads]
  · rw [Region.baseIds, hbase, hbases]

end IssueMerge
