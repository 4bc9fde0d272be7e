import IssueMerge.Proofs.Rebuild.Walk

/-!
The walk that rebuilds a file emits what its layout says. It gets through exactly when the plan's
entries for the base side name the ids of the base sides in order, and otherwise stops at the first
record that its next entry is not for.
-/

namespace IssueMerge

/-- What stops a walk when the plan is not for the file. -/
def RebuildError.IsOutOfStep : RebuildError → Prop
  | .mismatch _ _ | .leftover _ => True
  | .numeral _ => False

namespace Rebuild

open Outcome

variable {s : Rebuild} {line : Text} {plan : ResolutionPlan}

theorem Emits.trans {s₁ s₂ s₃ : Rebuild} {front back : List Resolution} {first rest : Layout}
    (h : s₁.Emits plan s₂ front first) (h' : s₂.Emits plan s₃ back rest)
    (hfront : front.map Resolution.oldId = first.baseIds) :
    s₁.Emits plan s₃ (front ++ back) (first ++ rest) := by
  have hlength : front.length = first.baseIds.length := by rw [← hfront, List.length_map]
  refine ⟨?_, ?_, ?_⟩
  · rw [h.todo, h'.todo, List.append_assoc]
  · rw [h'.output, h.output, Layout.emitted_append first rest hlength, List.append_assoc]
  · rw [h'.regions, h.regions, List.countP_append, Nat.add_assoc]

/-- One step of the walk is one step of the division. -/
theorem step_advance (plan : ResolutionPlan) {pending : Layout.Pending} (h : s.Stands pending)
    (hlegible : pending.Reads → Legible line) {used rest : List Resolution}
    (htodo : s.todo = used ++ rest)
    (hids : used.map Resolution.oldId = (Layout.advance pending line).1.baseIds) :
    ∃ s', step plan s line = .ok s' ∧ s'.Stands (Layout.advance pending line).2 ∧
      s.Emits plan s' used (Layout.advance pending line).1 := by
  have hempty : ∀ layout : Layout, layout.baseIds = [] →
      used.map Resolution.oldId = layout.baseIds → used = [] := by
    intro layout hlayout hused
    rw [hlayout] at hused
    exact List.map_eq_nil_iff.mp hused
  by_cases hopen : LineKind.ofLine line = .opening
  · have hstep := step_opening plan pending h hopen
    cases pending with
    | none =>
        simp only [Layout.advance, hopen, ↓reduceIte] at hids ⊢
        rw [hempty _ rfl hids]
        exact hstep
    | some p =>
        simp only [Layout.advance, hopen, ↓reduceIte] at hids ⊢
        rw [hempty _ rfl hids]
        exact hstep
  · cases pending with
    | none =>
        simp only [Layout.advance, hopen, ↓reduceIte] at hids ⊢
        rw [hempty _ rfl hids]
        exact step_outside h hopen (hlegible trivial)
    | some p =>
        by_cases hclose : LineKind.ofLine line = .closing
        · simp only [Layout.advance, hclose, reduceCtorEq, ↓reduceIte, Layout.baseIds,
            List.flatMap_singleton] at hids ⊢
          exact step_closing h hclose htodo hids
        · simp only [Layout.advance, hopen, hclose, ↓reduceIte] at hids ⊢
          rw [hempty _ rfl hids]
          exact step_inside h hopen hclose hlegible

theorem step_advance_error (plan : ResolutionPlan) {pending : Layout.Pending} (h : s.Stands pending)
    (hids : ¬ (Layout.advance pending line).1.baseIds <+: s.todo.map Resolution.oldId) :
    ∃ expected found, step plan s line = .error (.mismatch expected found) := by
  by_cases hopen : LineKind.ofLine line = .opening
  · cases pending <;> simp only [Layout.advance, hopen, ↓reduceIte] at hids <;>
      exact absurd List.nil_prefix hids
  · cases pending with
    | none =>
        simp only [Layout.advance, hopen, ↓reduceIte] at hids
        exact absurd List.nil_prefix hids
    | some p =>
        by_cases hclose : LineKind.ofLine line = .closing
        · simp only [Layout.advance, hclose, reduceCtorEq, ↓reduceIte, Layout.baseIds,
            List.flatMap_singleton] at hids
          exact step_closing_error h hclose hids
        · simp only [Layout.advance, hopen, hclose, ↓reduceIte] at hids
          exact absurd List.nil_prefix hids

theorem finish_of_todo_eq_nil {pending : Layout.Pending} (h : s.Stands pending)
    (htodo : s.todo = []) :
    ∃ s', s.finish = .ok s' ∧ s.Emits plan s' [] (Layout.leftOpen pending) := by
  cases pending with
  | none =>
      simp only [finish, h.2, htodo]
      exact ⟨_, rfl, rfl, (List.append_nil _).symm, rfl⟩
  | some p =>
      simp only [finish, h.2, flush, htodo]
      refine ⟨_, rfl, htodo, ?_, rfl⟩
      simp only [Layout.leftOpen, Layout.emitted_unclosed]

theorem finish_of_todo_ne_nil (s : Rebuild) (htodo : s.todo ≠ []) :
    ∃ oldId, s.finish = .error (.leftover oldId) := by
  obtain ⟨r, todo, htodo⟩ := List.exists_cons_of_ne_nil htodo
  refine ⟨r.oldId, ?_⟩
  simp only [finish]
  cases s.pending <;> simp only [flush, htodo]

theorem run_divide {lines : List Text} {pending : Layout.Pending}
    (hreadable : Layout.Readable pending lines) (h : s.Stands pending)
    (hids : s.todo.map Resolution.oldId = (Layout.divide pending lines).baseIds) :
    ∃ s', (run plan s lines >>= finish) = .ok s' ∧
      s.Emits plan s' s.todo (Layout.divide pending lines) := by
  induction lines generalizing s pending with
  | nil =>
      have hnone : (Layout.divide pending []).baseIds = [] := by cases pending <;> rfl
      rw [hnone] at hids
      have htodo := List.map_eq_nil_iff.mp hids
      rw [htodo]
      exact finish_of_todo_eq_nil h htodo
  | cons line lines ih =>
      rw [Layout.divide, Layout.baseIds, List.flatMap_append] at hids
      obtain ⟨front, back, htodo, hfront, hback⟩ := List.map_eq_append_iff.mp hids
      obtain ⟨s₁, hstep, hs₁, hemits⟩ := step_advance plan h hreadable.1 htodo hfront
      have hrest : s₁.todo = back := List.append_cancel_left (hemits.todo.symm.trans htodo)
      subst hrest
      obtain ⟨s', hrun, hs'⟩ := ih hreadable.2 hs₁ hback
      refine ⟨s', ?_, ?_⟩
      · simp only [run, hstep, bind, Except.bind]
        exact hrun
      · rw [htodo]
        exact hemits.trans hs' hfront

theorem run_divide_error {lines : List Text} {pending : Layout.Pending}
    (hreadable : Layout.Readable pending lines) (h : s.Stands pending)
    (hids : s.todo.map Resolution.oldId ≠ (Layout.divide pending lines).baseIds) :
    ∃ e, (run plan s lines >>= finish) = .error e ∧ e.IsOutOfStep := by
  induction lines generalizing s pending with
  | nil =>
      have hnone : (Layout.divide pending []).baseIds = [] := by cases pending <;> rfl
      rw [hnone] at hids
      obtain ⟨oldId, herror⟩ := finish_of_todo_ne_nil s fun htodo => hids (by rw [htodo]; rfl)
      exact ⟨_, herror, trivial⟩
  | cons line lines ih =>
      rw [Layout.divide, Layout.baseIds, List.flatMap_append] at hids
      by_cases hprefix : (Layout.advance pending line).1.baseIds <+: s.todo.map Resolution.oldId
      · obtain ⟨ids, hprefix⟩ := hprefix
        obtain ⟨front, back, htodo, hfront, hback⟩ := List.map_eq_append_iff.mp hprefix.symm
        obtain ⟨s₁, hstep, hs₁, hemits⟩ := step_advance plan h hreadable.1 htodo hfront
        have hrest : s₁.todo = back := List.append_cancel_left (hemits.todo.symm.trans htodo)
        subst hrest
        obtain ⟨e, hrun, he⟩ := ih hreadable.2 hs₁
          fun hrest => hids (by rw [htodo, List.map_append, hfront, hrest]; rfl)
        refine ⟨e, ?_, he⟩
        simp only [run, hstep, bind, Except.bind]
        exact hrun
      · obtain ⟨expected, found, hstep⟩ := step_advance_error plan h hprefix
        refine ⟨.mismatch expected found, ?_, trivial⟩
        simp only [run, hstep, bind, Except.bind]

theorem reads_of_step {s s' : Rebuild} {pending : Layout.Pending} (h : s.Stands pending)
    (hstep : step plan s line = .ok s') : pending.Reads → Legible line := by
  intro hreads
  by_cases hk : LineKind.ofLine line = .content
  · cases pending with
    | none =>
        simp only [step, hk, h.2, outside] at hstep
        cases hfound : Record.ofLine? line with
        | ok found => exact .of_ofLine? hfound
        | error e =>
            rw [hfound] at hstep
            cases hstep
    | some p =>
        have hplace : s.place ≠ .ancestor := fun hplace => hreads (h.1.symm.trans hplace)
        simp only [step, hk, h.2, addContent, hplace, ↓reduceIte] at hstep
        cases hfound : Record.ofLine? line with
        | ok found => exact .of_ofLine? hfound
        | error e =>
            rw [hfound] at hstep
            cases hstep
  · exact .of_ofLine? (Record.ofLine?_of_kind hk)

/-- A walk that gets through has read all lines but those in the text of ancestors. -/
theorem readable_of_run {s s' : Rebuild} {lines : List Text} {pending : Layout.Pending}
    (h : s.Stands pending) (hrun : run plan s lines = .ok s') : Layout.Readable pending lines := by
  induction lines generalizing s pending with
  | nil => trivial
  | cons line lines ih =>
      obtain ⟨s₁, hstep, hrun⟩ := bind_eq_ok.mp hrun
      have hreads := reads_of_step h hstep
      by_cases hids : (Layout.advance pending line).1.baseIds <+: s.todo.map Resolution.oldId
      · obtain ⟨ids, hids⟩ := hids
        obtain ⟨used, rest, htodo, hused, -⟩ := List.map_eq_append_iff.mp hids.symm
        obtain ⟨s₂, hstep₂, hs₂, -⟩ := step_advance plan h hreads htodo hused
        rw [hstep] at hstep₂
        cases hstep₂
        exact ⟨hreads, ih hs₂ hrun⟩
      · obtain ⟨expected, found, herror⟩ := step_advance_error plan h hids
        rw [hstep] at herror
        cases herror

end Rebuild

namespace Layout.Readable

variable {lines : List Text} (h : Readable none lines) (plan : ResolutionPlan)

include h

theorem rebuild_of_map_eq
    (hids : (plan.onSide .base).map Resolution.oldId = (ofLines lines).baseIds) :
    ∃ s, plan.rebuild lines = .ok s ∧
      s.output = (ofLines lines).emitted plan (plan.onSide .base) ∧
      s.regionsResolved = (ofLines lines).countP Block.isConflict := by
  have hstart : Rebuild.Stands { todo := plan.onSide .base } none := ⟨rfl, rfl⟩
  obtain ⟨s, hrun, hs⟩ := Rebuild.run_divide h hstart hids
  refine ⟨s, hrun, hs.output, ?_⟩
  rw [hs.regions, Nat.zero_add]
  rfl

theorem rebuild_of_map_ne
    (hids : (plan.onSide .base).map Resolution.oldId ≠ (ofLines lines).baseIds) :
    ∃ e, plan.rebuild lines = .error e ∧ e.IsOutOfStep := by
  have hstart : Rebuild.Stands { todo := plan.onSide .base } none := ⟨rfl, rfl⟩
  exact Rebuild.run_divide_error h hstart hids

end Layout.Readable

namespace ResolutionPlan

open Outcome

variable {lines : List Text} {plan : ResolutionPlan} {s : Rebuild}

theorem readable_of_rebuild (hs : plan.rebuild lines = .ok s) : Layout.Readable none lines := by
  have hstart : Rebuild.Stands { todo := plan.onSide .base } none := ⟨rfl, rfl⟩
  obtain ⟨s', hrun, _⟩ := bind_eq_ok.mp hs
  exact Rebuild.readable_of_run hstart hrun

/-- What a rebuild that gets through did, whatever stands in the text of ancestors. -/
theorem of_rebuild (hs : plan.rebuild lines = .ok s) :
    (plan.onSide .base).map Resolution.oldId = (Layout.ofLines lines).baseIds ∧
      s.output = (Layout.ofLines lines).emitted plan (plan.onSide .base) ∧
      s.regionsResolved = (Layout.ofLines lines).countP Block.isConflict := by
  have hreadable := readable_of_rebuild hs
  by_cases hids : (plan.onSide .base).map Resolution.oldId = (Layout.ofLines lines).baseIds
  · obtain ⟨s', hs', houtput⟩ := hreadable.rebuild_of_map_eq plan hids
    rw [hs] at hs'
    cases hs'
    exact ⟨hids, houtput⟩
  · obtain ⟨e, he, _⟩ := hreadable.rebuild_of_map_ne plan hids
    rw [hs] at he
    cases he

end ResolutionPlan

end IssueMerge
