import IssueMerge.Text.Lines

/-!
The lines of a text hold no line feed, and lines without one are the lines of the text they make up.
But for line feeds, a text holds what its lines hold.
-/

namespace IssueMerge

namespace Text

open CodePoint

theorem lineFeed_notMem_lines {t line : Text} (h : line ∈ t.lines) : lineFeed ∉ line := by
  induction t generalizing line with
  | nil =>
      rw [List.mem_singleton.mp h]
      exact List.not_mem_nil
  | cons c t ih =>
      simp only [lines] at h
      split at h
      · cases List.mem_cons.mp h with
        | inl heq =>
            rw [heq]
            exact List.not_mem_nil
        | inr h => exact ih h
      · next hc =>
        cases hl : lines t with
        | nil => exact absurd hl (lines_ne_nil t)
        | cons l ls =>
            rw [hl] at h ih
            cases List.mem_cons.mp h with
            | inl heq =>
                rw [heq, List.mem_cons, not_or]
                exact ⟨Ne.symm hc, ih List.mem_cons_self⟩
            | inr h => exact ih (List.mem_cons_of_mem l h)

theorem lines_append {line : Text} (h : lineFeed ∉ line) (t : Text) :
    lines (line ++ lineFeed :: t) = line :: lines t := by
  induction line with
  | nil => rfl
  | cons c line ih =>
      rw [List.mem_cons, not_or] at h
      simp only [List.cons_append, lines, Ne.symm h.1, ↓reduceIte, ih h.2]

theorem lines_of_notMem {line : Text} (h : lineFeed ∉ line) : lines line = [line] := by
  induction line with
  | nil => rfl
  | cons c line ih =>
      rw [List.mem_cons, not_or] at h
      simp only [lines, Ne.symm h.1, ↓reduceIte, ih h.2]

theorem unlines_cons_cons (first next : Text) (ls : List Text) :
    unlines (first :: next :: ls) = first ++ lineFeed :: unlines (next :: ls) :=
  List.append_assoc first [lineFeed] _

/-- Lines that are joined come apart again. -/
theorem lines_unlines {ls : List Text} (hne : ls ≠ []) (h : ∀ line ∈ ls, lineFeed ∉ line) :
    lines (unlines ls) = ls := by
  induction ls with
  | nil => exact absurd rfl hne
  | cons line ls ih =>
      have hline := h line List.mem_cons_self
      cases ls with
      | nil => exact lines_of_notMem hline
      | cons next ls =>
          have hrest := ih (List.cons_ne_nil next ls) fun l hl => h l (List.mem_cons_of_mem line hl)
          rw [unlines_cons_cons, lines_append hline, hrest]

variable {c : CodePoint} {ls : List Text}

theorem mem_unlines {line : Text} (h : line ∈ ls) (hc : c ∈ line) : c ∈ unlines ls := by
  induction ls with
  | nil => exact absurd h List.not_mem_nil
  | cons first ls ih =>
      cases ls with
      | nil =>
          rw [List.mem_singleton.mp h] at hc
          exact hc
      | cons next ls =>
          rw [unlines_cons_cons]
          cases List.mem_cons.mp h with
          | inl heq =>
              rw [heq] at hc
              exact List.mem_append_left _ hc
          | inr h => exact List.mem_append_right _ (List.mem_cons_of_mem _ (ih h))

theorem of_mem_unlines (h : c ∈ unlines ls) : c = lineFeed ∨ ∃ line ∈ ls, c ∈ line := by
  induction ls with
  | nil => exact absurd h List.not_mem_nil
  | cons first ls ih =>
      cases ls with
      | nil => exact .inr ⟨first, List.mem_cons_self, h⟩
      | cons next ls =>
          rw [unlines_cons_cons, List.mem_append, List.mem_cons] at h
          rcases h with h | h | h
          · exact .inr ⟨first, List.mem_cons_self, h⟩
          · exact .inl h
          · cases ih h with
            | inl hfeed => exact .inl hfeed
            | inr hfound =>
                obtain ⟨line, hline, hc⟩ := hfound
                exact .inr ⟨line, List.mem_cons_of_mem first hline, hc⟩

end Text

end IssueMerge
