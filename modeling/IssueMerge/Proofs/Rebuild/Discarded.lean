import IssueMerge.Proofs.Conflict.Discarded
import IssueMerge.Proofs.Rebuild.Walk
import IssueMerge.Resolution.Resolver
import Mathlib.Logic.Relation

/-!
What is discarded of a conflict has no influence on how a file is resolved. Plans are made from the
records that the scan finds, and the walk that rebuilds a file passes over what is discarded as the
scan does: it only holds the lines, for a conflict that is not closed. Nothing is said here of the
ids that are reserved when a plan is made; they are given.
-/

namespace IssueMerge

open Outcome

theorem ResolutionPlan.resolve_unnumbered (regions : List Region) (source : IdSource)
    (reserved : List Text) :
    resolve (regions.map Region.unnumbered) source reserved = resolve regions source reserved := by
  have hhead : (regions.map Region.unnumbered).flatMap Region.headIds =
      regions.flatMap Region.headIds := List.flatMap_map ..
  have hbase : (regions.map Region.unnumbered).flatMap Region.baseIds =
      regions.flatMap Region.baseIds := List.flatMap_map ..
  simp only [resolve, hhead, hbase]

namespace Rebuild

/-- The walk without the lines of the conflict that is open. -/
def unlined (s : Rebuild) : Rebuild :=
  { s with pending := s.pending.map fun c => { c with lines := [] } }

/-- Where in a conflict the next line stands, if one is open. -/
def placeInside (s : Rebuild) : Place :=
  if s.pending.isSome then s.place else .outside

theorem unlined_of_pending {s : Rebuild} (h : s.pending = none) : s.unlined = s := by
  obtain ⟨place, pending, todo, output, resolved, rewritten⟩ := s
  cases h
  rfl

section

variable (plan : ResolutionPlan) {s s' : Rebuild} {line : Text}

theorem run_eq_foldlM (s : Rebuild) (lines : List Text) :
    run plan s lines = lines.foldlM (step plan) s := by
  induction lines generalizing s with
  | nil => rfl
  | cons line lines ih =>
      rw [run, List.foldlM_cons]
      exact bind_congr fun s => ih s

theorem step_unlined (s : Rebuild) (hopen : LineKind.ofLine line ≠ .opening) :
    unlined <$> step plan s.unlined line = unlined <$> step plan s line := by
  obtain ⟨place, pending, todo, output, resolved, rewritten⟩ := s
  cases pending with
  | none => rfl
  | some c =>
      simp only [unlined, Option.map_some, step]
      cases hk : LineKind.ofLine line with
      | opening => exact absurd hk hopen
      | blank | ancestor | divider | closing => rfl
      | content =>
          simp only [addContent]
          cases place with
          | ancestor => rfl
          | outside | head | base =>
              cases Record.ofLine? line with
              | error e => rfl
              | ok found => cases found <;> rfl

theorem pending_emitBase {es : List Entry} (h : emitBase plan s es = .ok s') :
    s'.pending = s.pending := by
  induction es generalizing s with
  | nil =>
      cases h
      rfl
  | cons e es ih =>
      simp only [emitBase] at h
      split at h
      · cases h
      · next r todo _ =>
        split at h
        · obtain ⟨n, hn⟩ := emit_eq { s with todo } e.line (resolved? plan r e.record)
          rw [ih h, hn]
        · cases h

theorem pending_of_step_closing (hk : LineKind.ofLine line = .closing)
    (h : step plan s line = .ok s') : s'.pending = none := by
  simp only [step, hk] at h
  split at h
  · next hpending =>
    cases h
    exact hpending
  · next c _ =>
    obtain ⟨s₁, hbase, h⟩ := bind_eq_ok.mp h
    cases h
    obtain ⟨n, hn⟩ := foldl_emitHead plan
      { s with place := s.place.after .closing, pending := none } c.head
    rw [hn] at hbase
    exact pending_emitBase plan hbase

theorem step_of_discards (h : s.placeInside.discards line = true) :
    ∃ s', step plan s line = .ok s' ∧ s'.unlined = s.unlined := by
  have hstay := Place.after_of_discards h
  obtain ⟨place, pending, todo, output, resolved, rewritten⟩ := s
  cases pending with
  | none => cases h
  | some c =>
      simp only [placeInside, Option.isSome_some, ↓reduceIte] at h hstay
      cases hk : LineKind.ofLine line with
      | opening => exact absurd hk (Place.inner_of_discards h).1
      | closing => exact absurd hk (Place.inner_of_discards h).2
      | blank | ancestor | divider =>
          rw [hk] at hstay
          simp only [step, hk, hstay]
          exact ⟨_, rfl, rfl⟩
      | content =>
          cases place with
          | outside => cases h
          | ancestor =>
              simp only [step, hk, addContent]
              exact ⟨_, rfl, rfl⟩
          | head | base =>
              simp only [Place.discards, hk] at h
              simp only [step, hk, addContent, Record.ofLine?_of_isRefused h]
              exact ⟨_, rfl, rfl⟩

theorem pending_of_outside (h : outside plan s line = .ok s') : s'.pending = s.pending := by
  simp only [outside] at h
  split at h
  · cases h
  · cases h
    rfl
  · next record _ =>
    cases h
    obtain ⟨n, hn⟩ := emit_eq s line (record.rewritten? plan.table)
    rw [hn]

theorem placeInside_of_step (hline : Inner line) (h : step plan s line = .ok s') :
    s'.placeInside = s.placeInside.after (LineKind.ofLine line) := by
  cases hpending : s.pending with
  | none =>
      have hs : s.placeInside = .outside := by simp [placeInside, hpending]
      have hs' : s'.pending = none := by
        simp only [step, hpending] at h
        split at h
        · next hk => exact absurd hk hline.1
        · rw [pending_of_outside plan h, hpending]
        · cases h
          exact hpending
      rw [hs, placeInside, hs']
      cases hk : LineKind.ofLine line with
      | opening => exact absurd hk hline.1
      | blank | ancestor | divider | closing | content => rfl
  | some c =>
      have hs : s.placeInside = s.place := by simp [placeInside, hpending]
      rw [hs]
      simp only [step, hpending] at h
      cases hk : LineKind.ofLine line with
      | opening => exact absurd hk hline.1
      | closing => exact absurd hk hline.2
      | blank | ancestor | divider =>
          rw [hk] at h
          cases h
          simp [placeInside]
      | content =>
          rw [hk] at h
          obtain ⟨c', _, h⟩ := bind_eq_ok.mp h
          cases h
          cases s.place <;> simp [placeInside, Place.after]

/-- The walk passes over what is discarded, but for the lines that it holds. -/
theorem overlooks : Overlooks (step plan) unlined placeInside where
  forgets {s s' line} hopen hs := by
    rw [← step_unlined plan s hopen, hs, step_unlined plan s' hopen]
  passes hdiscards := step_of_discards plan hdiscards
  relabels {s line line'} hkind hcontent hmarks := by
    cases hpending : s.pending with
    | none =>
        -- outside conflicts all other markers are lines that stay, so their labels count
        have hs : s.placeInside = .outside := by simp [placeInside, hpending]
        have hopen : LineKind.ofLine line = .opening := hmarks.resolve_right (fun h => h hs)
        simp only [step, hpending, hkind, hopen]
        rfl
    | some c =>
        simp only [step, hpending, hkind]
        cases hk : LineKind.ofLine line with
        | content => exact absurd hk hcontent
        | blank | opening | ancestor | divider | closing => rfl
  opens {s s' line} hk hstep := by
    have hplace : s.place.after .opening = .head := by cases s.place <;> rfl
    simp only [step, hk, hplace] at hstep
    cases hpending : s.pending <;> simp only [hpending, Except.ok.injEq] at hstep <;>
      simp [← hstep, placeInside]
  moves hline hstep := placeInside_of_step plan hline hstep

theorem unlined_of_conflict {opening closing : Text} {body : List Text}
    (formed : (Block.conflict opening body closing).Formed)
    (h : (Block.conflict opening body closing).lines.foldlM (step plan) s = .ok s') :
    s'.unlined = s' := by
  rw [Block.lines, List.foldlM_append] at h
  obtain ⟨s₁, _, h⟩ := bind_eq_ok.mp h
  rw [List.foldlM_cons] at h
  obtain ⟨s₂, hstep, h⟩ := bind_eq_ok.mp h
  cases h
  exact unlined_of_pending (pending_of_step_closing plan formed.2.2 hstep)

/-- The lines of a conflict lead to the very state to which those of the edited one lead: behind the
closing marker no lines are held. -/
theorem foldlM_edited {block block' : Block} (formed : block.Formed) (edit : block.Edit block')
    (s : Rebuild) : block.lines.foldlM (step plan) s = block'.lines.foldlM (step plan) s := by
  have hforget := (overlooks plan).block_edited formed edit s
  have formed' := edit.formed formed
  cases edit with
  | body | opening | closing =>
      exact eq_of_map_eq hforget (fun _ => unlined_of_conflict plan formed)
        fun _ => unlined_of_conflict plan formed'

end

end Rebuild

variable {lines lines' : List Text}

theorem ResolutionPlan.rebuild_edited (h : Edited lines lines') (plan : ResolutionPlan) :
    plan.rebuild lines = plan.rebuild lines' := by
  obtain ⟨front, back, formed, edit⟩ := h
  simp only [rebuild, Rebuild.run_eq_foldlM, List.foldlM_append,
    Rebuild.foldlM_edited plan formed edit]

theorem ResolutionPlan.resolve_edited (h : Edited lines lines') (source : IdSource)
    (reserved : List Text) :
    (resolve · source reserved) <$> Region.ofLines lines =
      (resolve · source reserved) <$> Region.ofLines lines' := by
  have hregions := congrArg ((resolve · source reserved) <$> ·) (Region.unnumbered_ofLines h)
  simp only [← comp_map, Function.comp_def, resolve_unnumbered] at hregions
  exact hregions

/-- What is discarded of the conflicts in a file has no influence on the result: edits of it change
neither the plan that is made, or the error, nor what the file becomes by any plan. -/
theorem discarded_without_influence (h : Relation.ReflTransGen Edited lines lines') :
    (∀ (source : IdSource) (reserved : List Text),
      (ResolutionPlan.resolve · source reserved) <$> Region.ofLines lines =
        (ResolutionPlan.resolve · source reserved) <$> Region.ofLines lines') ∧
    ∀ plan : ResolutionPlan, plan.rebuild lines = plan.rebuild lines' := by
  induction h with
  | refl => exact ⟨fun _ _ => rfl, fun _ => rfl⟩
  | tail _ hedited ih =>
      exact ⟨fun source reserved =>
          (ih.1 source reserved).trans (ResolutionPlan.resolve_edited hedited source reserved),
        fun plan => (ih.2 plan).trans (ResolutionPlan.rebuild_edited hedited plan)⟩

theorem Edited.of_edits (front back : List Text) {block block' : Block} (formed : block.Formed)
    (edits : Relation.ReflTransGen Block.Edit block block') :
    Relation.ReflTransGen Edited (front ++ block.lines ++ back) (front ++ block'.lines ++ back) := by
  induction edits using Relation.ReflTransGen.head_induction_on with
  | refl => exact .refl
  | head edit _ ih => exact .head (.conflict front back formed edit) (ih (edit.formed formed))

def bareConflict : Block :=
  .conflict "<<<<<<< ours"
    ["\x7b\"id\":\"bd-1\"\x7d", "||||||| base", "=======", "\x7b\"id\":\"bd-1\"\x7d"]
    ">>>>>>> theirs"

/-- The same conflict with other labels and with much else that is discarded. -/
def crowdedConflict : Block :=
  .conflict "<<<<<<<"
    ["\x7b\"id\":\"bd-1\"\x7d", "\x7b\"id\":7\x7d",
      "|||||||", "\x7b\"id\":\"bd-9\"\x7d", "",
      "=======", "=======", "no record", "\x7b\"id\":\"bd-1\"\x7d"]
    ">>>>>>> HEAD"

theorem formed_bareConflict : bareConflict.Formed := by
  refine ⟨by decide +kernel, ?_, by decide +kernel⟩
  simp only [Inner]
  decide +kernel

theorem edits_bareConflict : Relation.ReflTransGen Block.Edit bareConflict crowdedConflict := by
  refine .head (@Block.Edit.opening _ "<<<<<<<" _ _ (by decide +kernel)) ?_
  refine .head (@Block.Edit.closing _ _ ">>>>>>> HEAD" _ (by decide +kernel)) ?_
  refine .head (.body (@BodyEdit.ancestor ["\x7b\"id\":\"bd-1\"\x7d"]
    ["=======", "\x7b\"id\":\"bd-1\"\x7d"] "||||||| base" "|||||||"
    (by decide +kernel) (by decide +kernel))) ?_
  refine .head (.body (@BodyEdit.discarded ["\x7b\"id\":\"bd-1\"\x7d"]
    ["|||||||", "=======", "\x7b\"id\":\"bd-1\"\x7d"] [] ["\x7b\"id\":7\x7d"]
    (by decide +kernel) (by decide +kernel))) ?_
  refine .head (.body (@BodyEdit.discarded ["\x7b\"id\":\"bd-1\"\x7d", "\x7b\"id\":7\x7d", "|||||||"]
    ["=======", "\x7b\"id\":\"bd-1\"\x7d"] [] ["\x7b\"id\":\"bd-9\"\x7d", ""]
    (by decide +kernel) (by decide +kernel))) ?_
  exact .single (.body (@BodyEdit.discarded
    ["\x7b\"id\":\"bd-1\"\x7d", "\x7b\"id\":7\x7d", "|||||||", "\x7b\"id\":\"bd-9\"\x7d", "",
      "======="]
    ["\x7b\"id\":\"bd-1\"\x7d"] [] ["=======", "no record"]
    (by decide +kernel) (by decide +kernel)))

theorem discarded_without_influence_bareConflict :
    Relation.ReflTransGen Edited bareConflict.lines crowdedConflict.lines ∧
      (∀ (source : IdSource) (reserved : List Text),
        (ResolutionPlan.resolve · source reserved) <$> Region.ofLines bareConflict.lines =
          (ResolutionPlan.resolve · source reserved) <$> Region.ofLines crowdedConflict.lines) ∧
      ∀ plan : ResolutionPlan,
        plan.rebuild bareConflict.lines = plan.rebuild crowdedConflict.lines := by
  have hedited : Relation.ReflTransGen Edited bareConflict.lines crowdedConflict.lines :=
    Edited.of_edits [] [] formed_bareConflict edits_bareConflict
  exact ⟨hedited, discarded_without_influence hedited⟩

end IssueMerge
