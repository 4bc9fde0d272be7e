import IssueMerge.Proofs.Resolution.Asked

/-!
Allocation turn by turn. An allocation is a loop without a bound of its own: in a turn the source is
asked, or the cursor counts up by one, and the first id that is not reserved ends the loop. Taken turn
by turn, it ends with what `Allocator.next` gives. Where a number is too long the outcome is the same,
but not the cursor: the loop has moved it up to that number.
-/

namespace IssueMerge

open IssueId Outcome

/-- Where the loop of an allocation stands: how many questions it has asked, and the allocator. -/
structure Allocation where
  attempts : Nat := 0
  allocator : Allocator

namespace Allocation

/-- What an allocation comes to, and the allocator behind it. -/
abbrev Result := Except AllocationError Text × Allocator

/-- One turn of the loop: its end, or where it stands in the next turn. -/
def turn (source : IdSource) (s : Allocation) : Result ⊕ Allocation :=
  match s.allocator.cursor with
  | none =>
    if s.attempts < maxAttempts then
      let a := { s.allocator with asked := s.allocator.asked + 1 }
      match source s.allocator.asked with
      | .error reason => .inl (.error (.sourceFailed reason), a)
      | .ok id =>
        match parts id with
        | .error e => .inl (.error (.numeral e), a)
        | .ok ⟨stem, number⟩ =>
          let a := { a with cursor := number.map fun n => ⟨stem, n + 1⟩ }
          if a.reserved.contains id then .inr ⟨s.attempts + 1, a⟩ else .inl (.ok id, a)
    else
      .inl (.error .exhausted, s.allocator)
  | some c =>
    match format c.stem c.number with
    | .error e => .inl (.error (.numeral e), s.allocator)
    | .ok id =>
      let a := { s.allocator with cursor := some { c with number := c.number + 1 } }
      if a.reserved.contains id then .inr { s with allocator := a } else .inl (.ok id, a)

/-- The loop ends after so many turns. -/
inductive Ends (source : IdSource) : Allocation → Nat → Result → Prop where
  | last {s : Allocation} {result : Result} (turn : s.turn source = .inl result) :
      Ends source s 1 result
  | more {s s' : Allocation} {turns : Nat} {result : Result} (turn : s.turn source = .inr s')
      (rest : Ends source s' turns result) : Ends source s (turns + 1) result

variable {source : IdSource} {s s' : Allocation} {a : Allocator} {c : Cursor} {result : Result}
  {attempts turns m : Nat} {id : Text}

/-- The loop with the cursor behind the number that it stood at. -/
def countedUp (s : Allocation) (c : Cursor) : Allocation :=
  { s with allocator.cursor := some { c with number := c.number + 1 } }

theorem turn_counts (source : IdSource) (hcursor : s.allocator.cursor = some c)
    (hformat : format c.stem c.number = .ok id) : s.turn source =
      if id ∈ s.allocator.reserved then .inr (s.countedUp c)
      else .inl (.ok id, (s.countedUp c).allocator) := by
  simp only [turn, hcursor, hformat]
  exact if_congr List.contains_iff_mem rfl rfl

theorem turn_too_long {e : Numeral.TooLong} (hcursor : s.allocator.cursor = some c)
    (hformat : format c.stem c.number = .error e) :
    s.turn source = .inl (.error (.numeral e), s.allocator) := by
  simp only [turn, hcursor, hformat]

/-- The loop with a question more, and with the cursor that its answer leads to. -/
def answered (s : Allocation) (cursor : Option Cursor) : Allocation :=
  ⟨s.attempts + 1, { s.allocator with asked := s.allocator.asked + 1, cursor }⟩

section

variable (hcursor : s.allocator.cursor = none) (hattempts : s.attempts < maxAttempts)

include hcursor hattempts

theorem turn_fails {reason : Text} (hanswer : source s.allocator.asked = .error reason) :
    s.turn source = .inl (.error (.sourceFailed reason), (s.answered none).allocator) := by
  simp only [turn, hcursor, if_pos hattempts, hanswer]
  rfl

theorem turn_illegible {e : Numeral.TooLong} (hanswer : source s.allocator.asked = .ok id)
    (hparts : parts id = .error e) :
    s.turn source = .inl (.error (.numeral e), (s.answered none).allocator) := by
  simp only [turn, hcursor, if_pos hattempts, hanswer, hparts]
  rfl

theorem turn_asks {stem : Text} {number : Option Nat}
    (hanswer : source s.allocator.asked = .ok id) (hparts : parts id = .ok ⟨stem, number⟩) :
    s.turn source =
      let next := s.answered (number.map fun n => ⟨stem, n + 1⟩)
      if id ∈ s.allocator.reserved then .inr next else .inl (.ok id, next.allocator) := by
  simp only [turn, hcursor, if_pos hattempts, hanswer, hparts]
  exact if_congr List.contains_iff_mem rfl rfl

end

theorem turn_gives_up (hcursor : s.allocator.cursor = none) (hattempts : s.attempts = maxAttempts) :
    s.turn source = .inl (.error .exhausted, s.allocator) := by
  simp only [turn, hcursor, hattempts, Nat.lt_irrefl, ↓reduceIte]

/-- With a cursor the loop takes one turn for each number up to the first one that is free. -/
theorem Ends.counting (hcursor : s.allocator.cursor = some c)
    (h : Allocator.FirstFree s.allocator.reserved c m) (hformat : format c.stem m = .ok id) :
    Ends source s (m - c.number + 1)
      (.ok id, { s.allocator with cursor := some ⟨c.stem, m + 1⟩ }) := by
  induction hsteps : m - c.number generalizing s c with
  | zero =>
      have hsame : c.number = m := Nat.le_antisymm h.le (Nat.le_of_sub_eq_zero hsteps)
      subst hsame
      obtain rfl := format_eq_ok hformat
      refine .last ?_
      rw [turn_counts source hcursor hformat, if_neg h.free]
      rfl
  | succ steps ih =>
      have hne : c.number ≠ m := by omega
      have hshort := (format_eq_ok_iff.mp hformat).1
      have hhere : format c.stem c.number = .ok (ofNumber c.stem c.number) :=
        format_eq_ok_iff.mpr ⟨Nat.le_trans (Numeral.length_digits_mono h.le) hshort, rfl⟩
      have hturn := turn_counts source hcursor hhere
      rw [if_pos (h.mem_iff.mpr hne)] at hturn
      have hsteps' : m - (c.number + 1) = steps := by omega
      have hrest := ih (s := s.countedUp c) (c := { c with number := c.number + 1 }) rfl
        (h.next hne) hformat hsteps'
      exact .more hturn hrest

/-- On the way to a number that is too long the loop ends with the first one that is. -/
theorem Ends.too_long {e : Numeral.TooLong} (source : IdSource)
    (hcursor : s.allocator.cursor = some c) (h : Allocator.FirstFree s.allocator.reserved c m)
    (hformat : format c.stem m = .error e) :
    ∃ turns a, turns ≤ m - c.number + 1 ∧ Ends source s turns (.error (.numeral e), a) ∧
      a.asked = s.allocator.asked := by
  induction hsteps : m - c.number generalizing s c with
  | zero =>
      have hsame : c.number = m := Nat.le_antisymm h.le (Nat.le_of_sub_eq_zero hsteps)
      exact ⟨1, s.allocator, Nat.le_refl _, .last (turn_too_long hcursor (hsame ▸ hformat)), rfl⟩
  | succ steps ih =>
      have hne : c.number ≠ m := by omega
      cases hhere : format c.stem c.number with
      | error e' =>
          obtain rfl : e' = e :=
            (format_eq_error.mp hhere).2.trans (format_eq_error.mp hformat).2.symm
          exact ⟨1, s.allocator, by omega, .last (turn_too_long hcursor hhere), rfl⟩
      | ok id =>
          obtain rfl := format_eq_ok hhere
          have hturn := turn_counts source hcursor hhere
          rw [if_pos (h.mem_iff.mpr hne)] at hturn
          have hsteps' : m - (c.number + 1) = steps := by omega
          obtain ⟨turns, a, hturns, hends, hasked⟩ :=
            ih (s := s.countedUp c) rfl (h.next hne) hformat hsteps'
          exact ⟨turns + 1, a, Nat.succ_le_succ hturns, .more hturn hends, hasked⟩

/-- The loop ends with a result that is known, but for the cursor where a number is too long, and it
takes no more turns than there are questions and reserved ids, and one. -/
def EndsWith (source : IdSource) (s : Allocation) (result : Result) : Prop :=
  ∃ turns a, Ends source s turns (result.1, a) ∧
    turns + s.allocator.asked ≤ result.2.asked + s.allocator.reserved.toFinset.card + 1 ∧
      a.asked = result.2.asked ∧ (a = result.2 ∨ ∃ e, result.1 = .error (.numeral e))

theorem EndsWith.last (h : s.turn source = .inl result)
    (hasked : s.allocator.asked ≤ result.2.asked) : EndsWith source s result :=
  ⟨1, result.2, .last h, by omega, rfl, .inl rfl⟩

theorem EndsWith.more (h : s.turn source = .inr s')
    (hreserved : s'.allocator.reserved = s.allocator.reserved)
    (hasked : s'.allocator.asked = s.allocator.asked + 1) (hrest : EndsWith source s' result) :
    EndsWith source s result := by
  obtain ⟨turns, a, hends, hturns, hsame⟩ := hrest
  rw [hreserved, hasked] at hturns
  exact ⟨turns + 1, a, .more h hends, by omega, hsame⟩

/-- From a cursor on the loop ends as counting up does. -/
theorem endsWith_fromCursor (source : IdSource) (attempts : Nat) (a : Allocator) (c : Cursor) :
    EndsWith source ⟨attempts, { a with cursor := some c }⟩ (a.fromCursor c) := by
  obtain ⟨m, hfirst⟩ := Allocator.exists_firstFree a.reserved c
  have hcard := hfirst.le_add_card
  rw [Allocator.fromCursor_eq hfirst]
  cases hformat : format c.stem m with
  | ok id =>
      refine ⟨m - c.number + 1, _, .counting rfl hfirst hformat, ?_, rfl, .inl rfl⟩
      simp only
      omega
  | error e =>
      obtain ⟨turns, a', hturns, hends, hasked⟩ := Ends.too_long source
        (s := ⟨attempts, { a with cursor := some c }⟩) rfl hfirst hformat
      refine ⟨turns, a', hends, ?_, hasked, .inr ⟨e, rfl⟩⟩
      simp only
      omega

/-- Without a cursor the loop ends as asking the source does. -/
theorem endsWith_fromSource {left : Nat} (hcursor : a.cursor = none)
    (hleft : attempts + left = maxAttempts) :
    EndsWith source ⟨attempts, a⟩ (Allocator.fromSource source left a) := by
  induction left generalizing attempts a with
  | zero => exact .last (turn_gives_up hcursor hleft) (Nat.le_refl _)
  | succ left ih =>
      let s : Allocation := ⟨attempts, a⟩
      have hattempts : attempts < maxAttempts := by omega
      have hleft' : attempts + 1 + left = maxAttempts := by omega
      have hasked : a.asked ≤ a.asked + 1 := Nat.le_succ _
      -- without a number in the answer there is no cursor in the next turn either
      have hkept : (s.answered none).allocator = { a with asked := a.asked + 1 } := by
        rw [answered, hcursor]
      rw [Allocator.fromSource_succ, ← hkept]
      split
      · next reason hanswer => exact .last (turn_fails hcursor hattempts hanswer) hasked
      · next id hanswer =>
        split
        · next e hparts => exact .last (turn_illegible hcursor hattempts hanswer hparts) hasked
        · next stem n hparts =>
          have hturn := turn_asks (s := s) hcursor hattempts hanswer hparts
          split
          · next hused =>
            rw [if_pos hused] at hturn
            exact .more hturn rfl rfl
              (endsWith_fromCursor source (attempts + 1) (s.answered none).allocator ⟨stem, n + 1⟩)
          · next hfree =>
            rw [if_neg hfree] at hturn
            exact .last hturn hasked
        · next stem hparts =>
          have hturn := turn_asks (s := s) hcursor hattempts hanswer hparts
          split
          · next hused =>
            rw [if_pos hused] at hturn
            exact .more hturn rfl rfl (ih rfl hleft')
          · next hfree =>
            rw [if_neg hfree] at hturn
            exact .last hturn hasked

theorem endsWith_next (source : IdSource) (a : Allocator) :
    EndsWith source { allocator := a } (a.next source) := by
  rw [Allocator.next]
  split
  · next c hcursor =>
    have hself : a = { a with cursor := some c } := by rw [← hcursor]
    have hends := endsWith_fromCursor source 0 a c
    rwa [← hself] at hends
  · next hcursor => exact endsWith_fromSource hcursor (Nat.zero_add _)

end Allocation

namespace Allocator

/-- How an allocation ends, as the loop that it is. -/
structure Terminates (source : IdSource) (a : Allocator) : Prop where
  /-- The loop ends with what is given, after at most a hundred questions and as many other turns as
  there are reserved ids, and one. -/
  ends : ∃ turns a', Allocation.Ends source { allocator := a } turns ((a.next source).1, a') ∧
    turns + a.asked ≤ a'.asked + a.reserved.toFinset.card + 1 ∧ a'.asked ≤ a.asked + maxAttempts ∧
      (a' = (a.next source).2 ∨ ∃ e, (a.next source).1 = .error (.numeral e))
  /-- An id that is given is not reserved. -/
  fresh : ∀ id, (a.next source).1 = .ok id → id ∉ a.reserved
  /-- There is none if the source fails or answers in vain, or else if a number is too long. -/
  overlong : ∀ e, (a.next source).1 = .error (.numeral e) → Overlong source a (a.next source).2
  /-- From a cursor on nothing is asked. The id is the one of the first number that is free, and the
  cursor moves behind it; there is one turn for each number up to there. -/
  counts : ∀ c, a.cursor = some c → ∃ m, FirstFree a.reserved c m ∧
    m - c.number ≤ a.reserved.toFinset.card ∧ ∀ id, format c.stem m = .ok id →
      a.next source = (.ok id, { a with cursor := some ⟨c.stem, m + 1⟩ }) ∧
        Allocation.Ends source { allocator := a } (m - c.number + 1) (a.next source)

end Allocator

/-- Whatever is reserved and whatever the source answers, the loop of an allocation ends. -/
theorem allocation_terminates (source : IdSource) (a : Allocator) : a.Terminates source where
  ends := by
    obtain ⟨turns, a', hends, hturns, hasked, hsame⟩ := Allocation.endsWith_next source a
    have hbound := (a.next_ended source).le_asked
    exact ⟨turns, a', hends, hasked ▸ hturns, hasked ▸ hbound, hsame⟩
  fresh id h := by
    have hnext : a.next source = (.ok id, (a.next source).2) := Prod.ext h rfl
    exact (Allocator.next_gives hnext).1.fresh
  overlong := (a.next_ended source).overlong
  counts c hcursor := by
    obtain ⟨m, hfirst⟩ := Allocator.exists_firstFree a.reserved c
    have hcard := hfirst.le_add_card
    refine ⟨m, hfirst, by omega, fun id hformat => ?_⟩
    have hnext : a.next source = (.ok id, { a with cursor := some ⟨c.stem, m + 1⟩ }) := by
      simp only [Allocator.next, hcursor, Allocator.fromCursor_eq hfirst, hformat]
    exact ⟨hnext, hnext ▸ Allocation.Ends.counting hcursor hfirst hformat⟩

-- An id with a zero in front of its digits is not in the way of the one without.
example :
    let a : Allocator :=
      { cursor := some ⟨"bd", 2⟩, reserved := ["bd-3", "bd-2", "bd-2", "bd-04"] }
    (a.next fun _ => .error "never asked").1 = .ok "bd-4" := by
  decide +kernel

end IssueMerge
