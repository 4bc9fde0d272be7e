import IssueMerge.Proofs.Disk.Memory

/-!
Entries of directories. A name that is not empty, holds no slash and is neither one point nor two leads
from a directory to a place directly inside it; two points lead to the place that the directory is in.
Names like these, and no others but the empty one, are the last names of their own paths. Whether
anything stands at a place is not looked at here.
-/

namespace IssueMerge

open Outcome

namespace Path

variable {directory : Path} {name t : Text}

/-- The text is the name of an entry of a directory. -/
structure IsEntryName (name : Text) : Prop where
  ne_nil : name ≠ []
  slash_notMem : slash ∉ name
  ne_point : name ≠ Text.ofString "."
  ne_upName : name ≠ upName

/-- The path to what a name stands for in a directory. -/
def entry (directory : Path) (name : Text) : Path :=
  { directory with parts := directory.parts ++ [name] }

theorem slash_notMem_of_mem_pieces {piece : Text} (h : piece ∈ pieces t) : slash ∉ piece := by
  induction t generalizing piece with
  | nil =>
      obtain rfl := List.mem_singleton.mp h
      exact List.not_mem_nil
  | cons c t ih =>
      simp only [pieces] at h
      split at h
      · cases List.mem_cons.mp h with
        | inl hempty =>
            rw [hempty]
            exact List.not_mem_nil
        | inr hrest => exact ih hrest
      · next hc =>
        have hcons : ∀ {front : Text}, slash ∉ front → slash ∉ c :: front := by
          intro front hfront hmem
          cases List.mem_cons.mp hmem with
          | inl heq => exact hc heq.symm
          | inr hmem => exact hfront hmem
        split at h
        · obtain rfl := List.mem_singleton.mp h
          exact hcons List.not_mem_nil
        · next first rest hpieces =>
          rw [hpieces] at ih
          cases List.mem_cons.mp h with
          | inl hfirst =>
              rw [hfirst]
              exact hcons (ih List.mem_cons_self)
          | inr hrest => exact ih (List.mem_cons_of_mem first hrest)

theorem pieces_of_notMem (h : slash ∉ t) : pieces t = [t] := by
  induction t with
  | nil => rfl
  | cons c t ih =>
      rw [List.mem_cons, not_or] at h
      rw [pieces, if_neg (Ne.symm h.1), ih h.2]

theorem parts_ofText (hname : name ≠ [] ∧ name ≠ Text.ofString ".") (hslash : slash ∉ name) :
    (ofText name).parts = [name] := by
  simp only [ofText, pieces_of_notMem hslash]
  exact List.filter_cons_of_pos (decide_eq_true hname)

/-- The texts that are the last names of their own paths. -/
theorem name_ofText_eq_self :
    (ofText t).name = t ↔ t = [] ∨ t ≠ Text.ofString "." ∧ slash ∉ t := by
  constructor
  · intro h
    by_cases hempty : t = []
    · exact .inl hempty
    · have hlast : (ofText t).parts.getLast? = some t := by
        rw [name] at h
        cases hparts : (ofText t).parts.getLast? with
        | none =>
            rw [hparts] at h
            exact absurd h.symm hempty
        | some last =>
            rw [hparts, Option.getD_some] at h
            rw [h]
      obtain ⟨hmem, hkept⟩ := List.mem_filter.mp (List.mem_of_getLast? hlast)
      exact .inr ⟨(of_decide_eq_true hkept).2, slash_notMem_of_mem_pieces hmem⟩
  · intro h
    by_cases hempty : t = []
    · rw [hempty]
      decide
    · obtain ⟨hpoint, hslash⟩ := h.resolve_left hempty
      rw [name, parts_ofText ⟨hempty, hpoint⟩ hslash]
      rfl

theorem child_eq_entry (hname : name ≠ [] ∧ name ≠ Text.ofString ".") (hslash : slash ∉ name) :
    directory.child name = directory.entry name := by
  have hanchor : (ofText name).anchor = .relative := by
    have hfront : name.takeWhile (· = slash) = [] := by
      cases name with
      | nil => rfl
      | cons c rest =>
          have hc : c ≠ slash := fun heq => hslash (heq ▸ List.mem_cons_self)
          exact List.takeWhile_cons_of_neg (by simpa using hc)
    simp only [ofText, hfront, List.length_nil]
  have hchild : directory.child name = directory.append (ofText name) := rfl
  rw [hchild, append, hanchor, parts_ofText hname hslash, entry]

theorem fromRoot_entry (workingDirectory : List Text) (directory : Path) (name : Text) :
    (directory.entry name).fromRoot workingDirectory =
      directory.fromRoot workingDirectory ++ [name] := by
  cases h : directory.anchor <;> simp [fromRoot, entry, h]

end Path

/-- Where what a name stands for in a directory is found, when the directory itself is found. -/
theorem MemoryDisk.place_entry {d : MemoryDisk} {directory : Path} {name : Text}
    {front place : List Text} (hdirectory : d.place directory = .ok front)
    (hentry : d.place (directory.entry name) = .ok place) :
    place = if name = Path.upName then front.dropLast else front ++ [name] := by
  obtain ⟨_, _, hfront⟩ := place_eq_ok.mp hdirectory
  obtain ⟨_, _, hplace⟩ := place_eq_ok.mp hentry
  rw [Path.fromRoot_entry, List.foldlM_append, bind_eq_ok] at hplace
  obtain ⟨start, hstart, hplace⟩ := hplace
  obtain rfl : start = front := Except.ok.inj (hstart.symm.trans hfront)
  simp only [List.foldlM_cons, List.foldlM_nil, bind_pure] at hplace
  obtain ⟨_, ⟨hup, hplace⟩ | ⟨hup, _, hplace⟩⟩ := descend_eq_ok.mp hplace
  · rw [if_pos hup, hplace]
  · rw [if_neg hup, hplace]

end IssueMerge
