import IssueMerge.Text.CodePoint

/-!
Lines of a text. Only a line feed separates lines, and a text with `n` line feeds has `n + 1`
lines, so joining the lines gives back the text.
-/

namespace IssueMerge

namespace CodePoint

/-- The line feed, which separates lines. -/
def lineFeed : CodePoint := ofChar '\n'

def carriageReturn : CodePoint := ofChar '\r'

end CodePoint

namespace Text

/-- The lines of a text; a text that ends with a line feed has an empty last line. -/
def lines : Text → List Text
  | [] => [[]]
  | c :: t =>
    if c = .lineFeed then
      [] :: lines t
    else
      match lines t with
      | [] => [[c]]
      | l :: ls => (c :: l) :: ls

def unlines (ls : List Text) : Text :=
  joinWith [.lineFeed] ls

theorem lines_ne_nil (t : Text) : lines t ≠ [] := by
  cases t with
  | nil => simp [lines]
  | cons c t =>
    simp only [lines]
    split
    · simp
    · split <;> simp

/-- Joining the lines of a text gives back the text. -/
theorem unlines_lines (t : Text) : unlines (lines t) = t := by
  induction t with
  | nil => rfl
  | cons c t ih =>
    simp only [lines]
    split
    · next h =>
      subst h
      cases hl : lines t with
      | nil => exact absurd hl (lines_ne_nil t)
      | cons l ls =>
        rw [hl] at ih
        simp only [unlines, joinWith] at ih ⊢
        rw [ih]; rfl
    · cases hl : lines t with
      | nil => exact absurd hl (lines_ne_nil t)
      | cons l ls =>
        rw [hl] at ih
        cases ls with
        | nil => simpa [unlines, joinWith] using ih
        | cons l' ls => simpa [unlines, joinWith] using ih

def endsWithReturn (line : Text) : Bool :=
  line.getLast? == some .carriageReturn

end Text

end IssueMerge
