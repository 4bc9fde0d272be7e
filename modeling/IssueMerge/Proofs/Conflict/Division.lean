import IssueMerge.Proofs.Conflict.Layout
import Mathlib.Data.List.Chain

/-!
The layout of a file without a walk over its lines. The stretches put together are the file, markers
stand where they belong, and a conflict without a closing marker reaches up to the next opening marker
or to the end. Every file is divided in one way only, and the conflicts with both markers are found
wherever an opening and a closing marker stand with neither between them.
-/

namespace IssueMerge

/-- What may stand behind a stretch. A conflict without a closing marker is cut off by another
opening marker. -/
def Block.Precedes : Block → Block → Prop
  | .unclosed _ _, .single _ => False
  | _, _ => True

namespace Layout

/-- The stretches divide the lines. -/
structure Divides (layout : Layout) (lines : List Text) : Prop where
  lines_eq : layout.flatMap Block.lines = lines
  formed : ∀ block ∈ layout, block.Formed
  cutOff : layout.IsChain Block.Precedes

section

variable {opening closing : Text} {body : List Text}

theorem divide_opening (pending : Pending) (hopen : LineKind.ofLine opening = .opening)
    (rest : List Text) :
    divide pending (opening :: rest) = leftOpen pending ++ divide (some (opening, [])) rest := by
  cases pending with
  | none => simp only [divide, advance, hopen, ↓reduceIte, leftOpen]
  | some p => simp only [divide, advance, hopen, ↓reduceIte, leftOpen]

theorem divide_inner (front : List Text) (hbody : ∀ line ∈ body, Inner line) (rest : List Text) :
    divide (some (opening, front)) (body ++ rest) =
      divide (some (opening, front ++ body)) rest := by
  induction body generalizing front with
  | nil => rw [List.nil_append, List.append_nil]
  | cons line body ih =>
      obtain ⟨hline, hbody⟩ := List.forall_mem_cons.mp hbody
      rw [List.cons_append, divide]
      simp only [advance, hline.1, hline.2, ↓reduceIte, List.nil_append]
      rw [ih (front ++ [line]) hbody, List.append_assoc, List.singleton_append]

theorem divide_closing (hclose : LineKind.ofLine closing = .closing) (rest : List Text) :
    divide (some (opening, body)) (closing :: rest) =
      .conflict opening body closing :: divide none rest := by
  simp only [divide, advance, hclose, reduceCtorEq, ↓reduceIte, List.singleton_append]

/-- A conflict with both markers comes off in front of all other lines, whatever was open. -/
theorem divide_conflict (pending : Pending) (h : (Block.conflict opening body closing).Formed)
    (rest : List Text) :
    divide pending (opening :: body ++ closing :: rest) =
      leftOpen pending ++ .conflict opening body closing :: divide none rest := by
  obtain ⟨hopen, hbody, hclose⟩ := h
  rw [List.cons_append, divide_opening pending hopen, divide_inner [] hbody, List.nil_append,
    divide_closing hclose]

end

/-- Some lines in front are divided for themselves, but for what is open behind them. -/
theorem exists_divide_append (pending : Pending) (front : List Text) :
    ∃ layout behind, (layout.flatMap Block.lines ++ Pending.lines behind = pending.lines ++ front) ∧
      ∀ rest, divide pending (front ++ rest) = layout ++ divide behind rest := by
  induction front generalizing pending with
  | nil => exact ⟨[], pending, by simp, fun rest => rfl⟩
  | cons line front ih =>
      obtain ⟨layout, behind, hlines, hdivide⟩ := ih (advance pending line).2
      refine ⟨(advance pending line).1 ++ layout, behind, ?_, ?_⟩
      · rw [List.flatMap_append, List.append_assoc, hlines, ← List.append_assoc, lines_advance,
          List.append_assoc, List.singleton_append]
      · intro rest
        rw [List.cons_append, divide, hdivide, List.append_assoc]

theorem lines_leftOpen (pending : Pending) :
    (leftOpen pending).flatMap Block.lines = pending.lines := by
  cases pending with
  | none => rfl
  | some p => exact List.append_nil _

/-- The conflicts with both markers of a file are where an opening and a closing marker stand with no
other such marker between them. -/
theorem conflict_iff {opening closing : Text} {front body back lines : List Text} :
    (∃ first rest, ofLines lines = first ++ .conflict opening body closing :: rest ∧
        first.flatMap Block.lines = front ∧ rest.flatMap Block.lines = back) ↔
      lines = front ++ (opening :: body ++ closing :: back) ∧
        (Block.conflict opening body closing).Formed := by
  constructor
  · rintro ⟨first, rest, hlayout, rfl, rfl⟩
    have hlines := flatMap_lines lines
    refine ⟨?_, formed_ofLines lines _ ?_⟩
    · rw [← hlines, hlayout]
      simp [Block.lines]
    · rw [hlayout]
      exact List.mem_append_right _ List.mem_cons_self
  · rintro ⟨rfl, hformed⟩
    obtain ⟨layout, behind, hlines, hdivide⟩ := exists_divide_append none front
    refine ⟨layout ++ leftOpen behind, divide none back, ?_, ?_, flatMap_lines back⟩
    · rw [ofLines, hdivide, divide_conflict behind hformed, List.append_assoc]
    · rw [List.flatMap_append, lines_leftOpen, hlines]
      rfl

theorem precedes_divide_some {opening : Text} {body : List Text} {block : Block} (lines : List Text)
    (h : block ∈ (divide (some (opening, body)) lines).head?) (first : Block) :
    first.Precedes block := by
  induction lines generalizing body with
  | nil =>
      cases h
      cases first <;> trivial
  | cons line lines ih =>
      by_cases hopen : LineKind.ofLine line = .opening
      · simp only [divide, advance, hopen, ↓reduceIte] at h
        cases h
        cases first <;> trivial
      · by_cases hclose : LineKind.ofLine line = .closing
        · rw [divide_closing hclose] at h
          cases h
          cases first <;> trivial
        · rw [divide] at h
          simp only [advance, hopen, hclose, ↓reduceIte, List.nil_append] at h
          exact ih h

theorem precedes_of_not_unclosed {block : Block} (h : ∀ opening body, block ≠ .unclosed opening body)
    (behind : Block) : block.Precedes behind := by
  cases block with
  | unclosed opening body => exact absurd rfl (h opening body)
  | single _ | conflict _ _ _ => cases behind <;> trivial

theorem isChain_divide (pending : Pending) (lines : List Text) :
    (divide pending lines).IsChain Block.Precedes := by
  induction lines generalizing pending with
  | nil =>
      cases pending with
      | none => exact .nil
      | some p => exact .singleton _
  | cons line lines ih =>
      have hrest := ih (advance pending line).2
      rw [divide]
      by_cases hopen : LineKind.ofLine line = .opening
      · cases pending with
        | none =>
            simp only [advance, hopen, ↓reduceIte] at hrest ⊢
            exact hrest
        | some p =>
            simp only [advance, hopen, ↓reduceIte] at hrest ⊢
            exact List.isChain_cons.mpr ⟨fun b hb => precedes_divide_some lines hb _, hrest⟩
      · cases pending with
        | none =>
            simp only [advance, hopen, ↓reduceIte] at hrest ⊢
            exact List.isChain_cons.mpr ⟨fun b _ => precedes_of_not_unclosed (by simp) b, hrest⟩
        | some p =>
            by_cases hclose : LineKind.ofLine line = .closing
            · simp only [advance, hclose, reduceCtorEq, ↓reduceIte] at hrest ⊢
              exact List.isChain_cons.mpr ⟨fun b _ => precedes_of_not_unclosed (by simp) b, hrest⟩
            · simp only [advance, hopen, hclose, ↓reduceIte] at hrest ⊢
              exact hrest

theorem divides_ofLines (lines : List Text) : (ofLines lines).Divides lines :=
  ⟨flatMap_lines lines, formed_ofLines lines, isChain_divide none lines⟩

/-- What cuts a conflict off starts with an opening marker. -/
theorem opening_of_precedes {opening : Text} {body : List Text} {next : Block}
    (h : (Block.unclosed opening body).Precedes next) (hnext : next.Formed) :
    ∃ line behind, next.lines = line :: behind ∧ LineKind.ofLine line = .opening := by
  cases next with
  | single line => exact absurd h id
  | conflict opening' body' closing' => exact ⟨_, _, rfl, hnext.1⟩
  | unclosed opening' body' => exact ⟨_, _, rfl, hnext.1⟩

/-- A file is divided in one way only. -/
theorem Divides.eq_ofLines {layout : Layout} {lines : List Text} (h : layout.Divides lines) :
    layout = ofLines lines := by
  obtain ⟨rfl, hformed, hcut⟩ := h
  induction layout with
  | nil => rfl
  | cons block rest ih =>
      obtain ⟨hblock, hblocks⟩ := List.forall_mem_cons.mp hformed
      obtain ⟨hnext, hcut⟩ := List.isChain_cons.mp hcut
      have hrest : rest = divide none (rest.flatMap Block.lines) := ih hblocks hcut
      rw [ofLines, List.flatMap_cons]
      cases block with
      | single line =>
          have hopen : LineKind.ofLine line ≠ .opening := hblock
          simp only [Block.lines, List.singleton_append, divide, advance, hopen, ↓reduceIte,
            ← hrest]
      | conflict opening body closing =>
          have hdivide := divide_conflict none hblock (rest.flatMap Block.lines)
          rw [leftOpen, List.nil_append, ← hrest] at hdivide
          rw [← hdivide]
          simp [Block.lines]
      | unclosed opening body =>
          have hdivide : divide none (opening :: body ++ rest.flatMap Block.lines) =
              divide (some (opening, body)) (rest.flatMap Block.lines) := by
            rw [List.cons_append, divide_opening none hblock.1, divide_inner [] hblock.2]
            rfl
          rw [Block.lines, hdivide]
          cases rest with
          | nil => rfl
          | cons next rest =>
              obtain ⟨line, behind, hlines, hopen⟩ :=
                opening_of_precedes (hnext next rfl) (List.forall_mem_cons.mp hblocks).1
              rw [List.flatMap_cons, hlines, List.cons_append, divide_opening _ hopen] at hrest
              rw [List.flatMap_cons, hlines, List.cons_append, divide_opening _ hopen, hrest]
              rfl

theorem divides_iff {layout : Layout} {lines : List Text} :
    layout.Divides lines ↔ layout = ofLines lines :=
  ⟨fun h => h.eq_ofLines, fun h => h ▸ divides_ofLines lines⟩

end Layout

end IssueMerge
