import IssueMerge.Proofs.Rebuild.Lines
import Mathlib.Data.List.Pairwise

/-!
The markers of a rebuilt file. Of the markers of a conflict with both ends none stays, so a new
conflict can only come from the opening marker of one without an end and a closing marker behind it
that was outside all conflicts.
-/

namespace IssueMerge

namespace Block

/-- A conflict without a closing marker. -/
def isUnclosed : Block → Bool
  | unclosed _ _ => true
  | single _ | conflict _ _ _ => false

/-- A closing marker outside all conflicts. -/
def isStray : Block → Bool
  | single line => LineKind.ofLine line = .closing
  | conflict _ _ _ | unclosed _ _ => false

end Block

/-- The two lines do not open and close a conflict. -/
def Apart (first second : Text) : Prop :=
  LineKind.ofLine first = .opening → LineKind.ofLine second ≠ .closing

namespace Layout

/-- No closing marker outside all conflicts stands behind a conflict without one. -/
def StaysResolved (layout : Layout) : Prop :=
  layout.Pairwise fun first second => first.isUnclosed = true → second.isStray = false

instance (layout : Layout) : Decidable layout.StaysResolved :=
  inferInstanceAs (Decidable (List.Pairwise _ layout))

theorem divide_no_conflict (pending : Pending) (lines : List Text) :
    (∀ block ∈ divide pending lines, block.isConflict = false) ↔
      (pending.isSome = true → ∀ line ∈ lines, LineKind.ofLine line ≠ .closing) ∧
        lines.Pairwise Apart := by
  induction lines generalizing pending with
  | nil => cases pending <;> simp [divide, leftOpen, Block.isConflict]
  | cons line lines ih =>
      simp only [divide, List.forall_mem_append, ih, List.pairwise_cons, List.forall_mem_cons]
      by_cases hopen : LineKind.ofLine line = .opening
      · cases pending <;> simp [advance, hopen, Apart, Block.isConflict]
      · have hapart : ∀ other, Apart line other := fun _ h => absurd h hopen
        cases pending with
        | none => simp [advance, hopen, hapart, Block.isConflict]
        | some p =>
            by_cases hclose : LineKind.ofLine line = .closing
            · simp [advance, hclose, Block.isConflict]
            · simp [advance, hopen, hclose, hapart]

/-- There is no conflict with both markers in lines of which no two open and close one. -/
theorem ofLines_no_conflict (lines : List Text) :
    (∀ block ∈ ofLines lines, block.isConflict = false) ↔ lines.Pairwise Apart := by
  rw [ofLines, divide_no_conflict]
  simp

end Layout

namespace Block

variable {block : Block} (used : List Resolution)

theorem kind_of_mem_recordLines {lines : List Text} {line : Text} (h : line ∈ recordLines lines) :
    LineKind.ofLine line = .content := by
  have hon := (List.mem_filter.mp h).2
  apply Classical.byContradiction
  intro hk
  rw [Record.on?_of_kind hk] at hon
  cases hon

/-- Of a conflict with both markers only lines of content stay. -/
theorem kind_of_mem_kept {opening closing : Text} {body : List Text} {p : Origin × Text}
    (h : p ∈ (conflict opening body closing).kept used) : LineKind.ofLine p.2 = .content := by
  cases List.mem_append.mp h with
  | inl h =>
      obtain ⟨line, hline, rfl⟩ := List.mem_map.mp h
      exact kind_of_mem_recordLines hline
  | inr h =>
      rw [← List.map_uncurry_zip_eq_zipWith] at h
      obtain ⟨⟨r, line⟩, hzip, rfl⟩ := List.mem_map.mp h
      exact kind_of_mem_recordLines (List.of_mem_zip hzip).2

/-- What stays of a conflict without a closing marker opens one again. -/
theorem opening_kept (hblock : block.Formed) :
    (∃ p ∈ block.kept used, LineKind.ofLine p.2 = .opening) ↔ block.isUnclosed = true := by
  cases block with
  | single line => simpa [kept, isUnclosed, Formed] using hblock
  | conflict opening body closing =>
      simp only [isUnclosed, Bool.false_eq_true, iff_false]
      rintro ⟨p, hp, hk⟩
      rw [kind_of_mem_kept used hp] at hk
      cases hk
  | unclosed opening body => simp [kept, isUnclosed, hblock.1]

theorem closing_kept (hblock : block.Formed) :
    (∃ p ∈ block.kept used, LineKind.ofLine p.2 = .closing) ↔ block.isStray = true := by
  cases block with
  | single line => simp [kept, isStray]
  | conflict opening body closing =>
      simp only [isStray, Bool.false_eq_true, iff_false]
      rintro ⟨p, hp, hk⟩
      rw [kind_of_mem_kept used hp] at hk
      cases hk
  | unclosed opening body =>
      have hbody : ∀ line ∈ body, LineKind.ofLine line ≠ .closing := fun l hl => (hblock.2 l hl).2
      simpa [kept, isStray, hblock.1] using hbody

theorem pairwise_kept (hblock : block.Formed) :
    (block.kept used).Pairwise fun p q => Apart p.2 q.2 := by
  by_cases hstray : block.isStray = true
  · cases block with
    | single line => exact List.pairwise_singleton _ _
    | conflict _ _ _ | unclosed _ _ => cases hstray
  · refine List.pairwise_of_forall_mem_list fun p _ q hq _ hclose => ?_
    exact hstray ((closing_kept used hblock).mp ⟨q, hq, hclose⟩)

end Block

namespace Layout

theorem closing_kept {layout : Layout} (used : List Resolution)
    (h : ∀ block ∈ layout, block.Formed) :
    (∃ p ∈ layout.kept used, LineKind.ofLine p.2 = .closing) ↔
      ∃ block ∈ layout, block.isStray = true := by
  induction layout generalizing used with
  | nil => simp [kept]
  | cons block layout ih =>
      obtain ⟨hblock, hlayout⟩ := List.forall_mem_cons.mp h
      simp only [kept, List.mem_append, List.mem_cons, or_and_right, exists_or, exists_eq_left,
        Block.closing_kept _ hblock, ih _ hlayout]

theorem pairwise_kept {layout : Layout} (used : List Resolution)
    (h : ∀ block ∈ layout, block.Formed) :
    (layout.kept used).Pairwise (fun p q => Apart p.2 q.2) ↔ layout.StaysResolved := by
  induction layout generalizing used with
  | nil => exact ⟨fun _ => .nil, fun _ => .nil⟩
  | cons block layout ih =>
      obtain ⟨hblock, hlayout⟩ := List.forall_mem_cons.mp h
      have hopening := Block.opening_kept (used.take block.baseIds.length) hblock
      have hclosing := closing_kept (used.drop block.baseIds.length) hlayout
      rw [kept, List.pairwise_append, ih _ hlayout, StaysResolved, StaysResolved, List.pairwise_cons]
      constructor
      · rintro ⟨-, hrest, hcross⟩
        refine ⟨fun other hother hunclosed => ?_, hrest⟩
        rw [Bool.eq_false_iff]
        intro hstray
        obtain ⟨p, hp, hpk⟩ := hopening.mpr hunclosed
        obtain ⟨q, hq, hqk⟩ := hclosing.mpr ⟨other, hother, hstray⟩
        exact hcross p hp q hq hpk hqk
      · rintro ⟨hcross, hrest⟩
        refine ⟨Block.pairwise_kept _ hblock, hrest, fun p hp q hq hpk hqk => ?_⟩
        obtain ⟨other, hother, hstray⟩ := hclosing.mp ⟨q, hq, hqk⟩
        rw [hcross other hother (hopening.mp ⟨p, hp, hpk⟩)] at hstray
        cases hstray

/-- No two lines of a rebuilt file open and close a conflict exactly when the layout says so. -/
theorem pairwise_emitted (plan : ResolutionPlan) {layout : Layout} (used : List Resolution)
    (h : ∀ block ∈ layout, block.Formed) :
    (layout.emitted plan used).Pairwise Apart ↔ layout.StaysResolved := by
  rw [emitted, List.pairwise_map, ← pairwise_kept used h]
  simp only [Apart, Origin.kind_emit]

end Layout

end IssueMerge
