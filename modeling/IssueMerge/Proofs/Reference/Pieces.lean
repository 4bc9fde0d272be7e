import IssueMerge.Proofs.Reference.Tokens

/-!
Rewriting a free text piece by piece. A text is cut in one way only into runs that are as long as can
be and consist of characters that are all tied to ids or all not. Where the ids that are replaced
consist of tied characters, rewriting replaces the runs that are such ids, apart from those that a
point and a word character follow, and leaves all other runs alone.
-/

namespace IssueMerge

/-- The text starts like what stands behind the id of a parent in the id of a child. -/
def Text.startsChild : Text → Bool
  | c :: d :: _ => c == CodePoint.ofChar '.' && d.isWord
  | _ => false

/-- Some runs, each replaced by what the table has for it unless those behind it start like the rest
of the id of a child. -/
def RemapTable.replaceRuns (table : RemapTable) : List Text → List Text
  | [] => []
  | run :: rest =>
    (if Text.startsChild rest.flatten then run else (table.find? run).getD run) ::
      replaceRuns table rest

namespace Alternate

variable {previous : Option CodePoint} {run : Text} {rest runs runs' : List Text}

/-- The first of some runs takes all characters of its kind. -/
theorem takeWhile_flatten (h : Alternate previous (run :: rest)) {c : CodePoint}
    (hc : (run :: rest).flatten.head? = some c) :
    (run :: rest).flatten.takeWhile (·.isGlue == c.isGlue) = run := by
  cases h with
  | @cons _ _ _ glue hne huniform _ hbehind =>
      obtain ⟨d, tail, rfl⟩ := List.exists_cons_of_ne_nil hne
      cases hc
      have hkind := huniform c List.mem_cons_self
      obtain ⟨last, hlast⟩ := Option.ne_none_iff_exists'.mp (mt List.getLast?_eq_none_iff.mp hne)
      rw [hlast] at hbehind
      have hrest : rest.flatten.takeWhile (·.isGlue == c.isGlue) = [] := by
        cases hflat : rest.flatten with
        | nil => rfl
        | cons e _ =>
            have he := hbehind.head?_flatten e (by rw [hflat]; rfl)
            rw [huniform last (List.mem_of_getLast? hlast)] at he
            exact List.takeWhile_cons_of_neg (by simp [he, hkind])
      rw [List.flatten_cons, List.takeWhile_append_of_pos, hrest, List.append_nil]
      exact fun e he => beq_iff_eq.mpr ((huniform e he).trans hkind.symm)

/-- A text is cut into such runs in one way only. -/
theorem eq_of_flatten_eq (h : Alternate previous runs) {previous' : Option CodePoint}
    (h' : Alternate previous' runs') (heq : runs.flatten = runs'.flatten) : runs = runs' := by
  induction h generalizing previous' runs' with
  | nil =>
      cases h' with
      | nil => rfl
      | cons _ hne => exact absurd (List.append_eq_nil_iff.mp heq.symm).1 hne
  | @cons previous run rest glue hne huniform hboundary hbehind ih =>
      cases h' with
      | nil => exact absurd (List.append_eq_nil_iff.mp heq).1 hne
      | @cons _ run' rest' glue' hne' huniform' hboundary' hbehind' =>
          obtain ⟨c, tail, rfl⟩ := List.exists_cons_of_ne_nil hne
          have hfirst := takeWhile_flatten (.cons glue hne huniform hboundary hbehind) rfl
          have hfirst' := takeWhile_flatten (.cons glue' hne' huniform' hboundary' hbehind') (c := c)
            (heq ▸ rfl)
          rw [heq, hfirst'] at hfirst
          subst hfirst
          rw [ih hbehind' (List.append_cancel_left heq)]

end Alternate

namespace RemapTable

variable {table : RemapTable}

theorem mayEnd_of_loose {behind : Text} (h : ∀ c ∈ behind.head?, c.isGlue = false) :
    Mention.mayEnd behind = !behind.startsChild := by
  cases behind with
  | nil => rfl
  | cons c rest =>
      have hc := h c rfl
      cases rest <;> simp [Mention.mayEnd, Text.startsChild, hc]

theorem renameRuns_eq (hids : ∀ id ∈ table.ids, id ≠ [] ∧ ∀ c ∈ id, c.isGlue = true)
    {previous : Option CodePoint} {runs : List Text} (h : Alternate previous runs) :
    renameRuns (fun run => (table.find? run).getD run) runs = (table.replaceRuns runs).flatten := by
  induction h with
  | nil => rfl
  | @cons previous run rest glue hne huniform hboundary hbehind ih =>
      obtain ⟨last, hlast⟩ := Option.ne_none_iff_exists'.mp (mt List.getLast?_eq_none_iff.mp hne)
      have hlastGlue := huniform last (List.mem_of_getLast? hlast)
      rw [renameRuns, ih, replaceRuns, List.flatten_cons]
      congr 1
      cases glue with
      | false =>
          have hnone : table.find? run = none := by
            refine find?_of_notMem fun hmem => ?_
            have htied := (hids run hmem).2 last (List.mem_of_getLast? hlast)
            rw [hlastGlue] at htied
            cases htied
          have hall : run.all CodePoint.isGlue = false :=
            List.all_eq_false.mpr ⟨last, List.mem_of_getLast? hlast, by simp [hlastGlue]⟩
          simp only [hall, hnone, Bool.false_and, Bool.false_eq_true, ↓reduceIte, Option.getD_none,
            ite_self]
      | true =>
          have hloose : ∀ c ∈ rest.flatten.head?, c.isGlue = false := by
            rw [hlast] at hbehind
            have hhead := hbehind.head?_flatten
            rwa [hlastGlue] at hhead
          have hall : run.all CodePoint.isGlue = true := List.all_eq_true.mpr huniform
          rw [hall, mayEnd_of_loose hloose, Bool.true_and]
          cases Text.startsChild rest.flatten <;> rfl

end RemapTable

/-- Rewriting a text replaces ids run by run, where all ids that are replaced consist of characters
that are tied to ids. There is one way to cut the text into longest runs of such characters and of
others; of these runs each that is such an id is replaced, unless a point and a word character follow,
and all others are left alone. -/
theorem rewriteText_by_runs {table : RemapTable}
    (hids : ∀ id ∈ table.ids, id ≠ [] ∧ ∀ c ∈ id, c.isGlue = true) (text : Text) :
    (∀ runs, Alternate none runs ∧ runs.flatten = text ↔ runs = text.runs) ∧
      table.rewriteText text = (table.replaceRuns text.runs).flatten := by
  refine ⟨fun runs => ⟨?_, ?_⟩, ?_⟩
  · rintro ⟨halternate, hflatten⟩
    exact halternate.eq_of_flatten_eq (alternate_runs text) (hflatten.trans (flatten_runs text).symm)
  · rintro rfl
    exact ⟨alternate_runs text, flatten_runs text⟩
  · rw [RemapTable.rewriteText_eq_renameTokens hids, Text.renameTokens,
      RemapTable.renameRuns_eq hids (alternate_runs text)]

/-- Two ids that change places, one that is part of another, and one whose new form mentions it. -/
def crossedTable : RemapTable :=
  [("bd-1", "bd-2"), ("bd-2", "bd-1"), ("bd", "see bd-1")]

theorem rewriteText_by_runs_crossedTable :
    (∀ id ∈ crossedTable.ids, id ≠ [] ∧ ∀ c ∈ id, c.isGlue = true) ∧
      crossedTable.rewriteText "bd-1 bd-10 xbd-1 sub-bd-1 bd-1.2 bd-2. (bd)" =
        Text.ofString "bd-2 bd-10 xbd-1 sub-bd-1 bd-1.2 bd-1. (see bd-1)" := by
  have hids : ∀ id ∈ crossedTable.ids, id ≠ [] ∧ ∀ c ∈ id, c.isGlue = true := by decide +kernel
  refine ⟨hids, (rewriteText_by_runs hids _).2.trans ?_⟩
  decide +kernel

end IssueMerge
