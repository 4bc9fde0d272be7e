import IssueMerge.Proofs.Resolution.Settled

/-!
What is asked of the source of ids, how often, and when there is no plan. An allocation asks as long
as the answers are of no use, and the first other answer ends the asking: it is a failure, or an id to
give out, or it has a number and the allocator counts up from there, in this allocation and in all
later ones. A numeral that is too long ends a run too, and is told apart from the failures that are of
the source's making.
-/

namespace IssueMerge

open IssueId Outcome

namespace IdSource

/-- The answer to a question is of no use: an id without a number that is in use. -/
def Wastes (source : IdSource) (used : List Text) (k : Nat) : Prop :=
  ∃ id ∈ used, source k = .ok id ∧ numbered? id = none

/-- The answer to a question is an id with a number. -/
def Numbers (source : IdSource) (k : Nat) : Prop :=
  ∃ id p, source k = .ok id ∧ numbered? id = some p

variable {source : IdSource} {used : List Text} {k : Nat}

theorem Wastes.not_numbers (h : source.Wastes used k) : ¬ source.Numbers k := by
  obtain ⟨id, _, hid, hnone⟩ := h
  intro hnumbers
  obtain ⟨id', p, hid', hsome⟩ := hnumbers
  cases hid.symm.trans hid'
  rw [hnone] at hsome
  cases hsome

theorem Wastes.ne_error (h : source.Wastes used k) (reason : Text) : source k ≠ .error reason := by
  obtain ⟨id, _, hid, _⟩ := h
  rw [hid]
  exact nofun

theorem not_wastes_of_ok {id : Text} (h : source k = .ok id)
    (hid : id ∈ used → numbered? id ≠ none) : ¬ source.Wastes used k := by
  intro hwaste
  obtain ⟨id', hused, hid', hnone⟩ := hwaste
  cases h.symm.trans hid'
  exact hid hused hnone

end IdSource

namespace Allocator

/-- Counting up from a cursor, past ids that are all in use, comes to a number that is too long. -/
def CountsTooFar (used : List Text) (c : Cursor) : Prop :=
  ∃ n, c.number ≤ n ∧ (∀ m, c.number ≤ m → m < n → ofNumber c.stem m ∈ used) ∧
    Numeral.maxDigits < (Numeral.digits n).length

/-- A number that is too long comes up in an allocation, which leads from one state to another. -/
inductive Overlong (source : IdSource) (a a' : Allocator) : Prop where
  /-- The number of an answer is too long to be read. -/
  | read {k : Nat} {stem suffix : Text} (asked : a.asked ≤ k ∧ k < a'.asked)
      (answer : source k = .ok (stem ++ hyphen :: suffix)) (digits : isNumeric suffix = true)
      (long : Numeral.maxDigits < suffix.length)
  /-- A number is too long to be written that the allocator counts up to from its cursor. -/
  | cursor {c : Cursor} (start : a.cursor = some c) (far : CountsTooFar a.reserved c)
  /-- A number is too long to be written that the allocator counts up to from an answer in use. -/
  | seed {k n : Nat} {id stem : Text} (asked : a.asked ≤ k ∧ k < a'.asked)
      (answer : source k = .ok id) (used : id ∈ a.reserved) (number : numbered? id = some (stem, n))
      (far : CountsTooFar a.reserved ⟨stem, n + 1⟩)

variable {source : IdSource} {a a' : Allocator} {result : Except AllocationError Text}

/-- Counting up asks nothing. It goes on from where it came to, or comes to a number that is too
long. -/
theorem fromCursor_cases {c : Cursor} (h : a.fromCursor c = (result, a')) : a'.asked = a.asked ∧
    ((∃ id, result = .ok id ∧ a'.cursor.isSome = true) ∨
      ∃ e, result = .error (.numeral e) ∧ CountsTooFar a.reserved c) := by
  obtain ⟨m, hfirst⟩ := exists_firstFree a.reserved c
  rw [fromCursor_eq hfirst] at h
  split at h
  · next id _ =>
    cases h
    exact ⟨rfl, .inl ⟨id, rfl, rfl⟩⟩
  · next e hformat =>
    cases h
    exact ⟨rfl, .inr ⟨e, rfl, m, hfirst.le, hfirst.least, (format_eq_error.mp hformat).1⟩⟩

/-- How an allocation ends that may ask so many questions. -/
structure Ended (source : IdSource) (attempts : Nat) (a : Allocator)
    (result : Except AllocationError Text) (a' : Allocator) : Prop where
  asked_le : a.asked ≤ a'.asked
  le_asked : a'.asked ≤ a.asked + attempts
  /-- With a cursor nothing is asked. -/
  silent : a.cursor.isSome = true → a'.asked = a.asked
  /-- An answer with a number is the last one. -/
  last : ∀ k, a.asked ≤ k → k < a'.asked → source.Numbers k → k + 1 = a'.asked
  /-- From then on there is a cursor. -/
  cursor : ∀ id, result = .ok id → (a.cursor.isSome = true ∨
    ∃ k, a.asked ≤ k ∧ k < a'.asked ∧ source.Numbers k) → a'.cursor.isSome = true
  failed : ∀ reason, result = .error (.sourceFailed reason) ↔
    ∃ k, a.asked ≤ k ∧ k < a'.asked ∧ source k = .error reason
  exhausted : result = .error .exhausted ↔ a'.asked = a.asked + attempts ∧
    ∀ k, a.asked ≤ k → k < a'.asked → source.Wastes a.reserved k
  overlong : ∀ e, result = .error (.numeral e) → Overlong source a a'

namespace Ended

variable {attempts : Nat}

/-- Without a question to ask there is no id. -/
theorem nil : Ended source 0 a (.error .exhausted) a where
  asked_le := Nat.le_refl _
  le_asked := Nat.le_refl _
  silent _ := rfl
  last k hle hlt := by omega
  cursor := nofun
  failed reason := by
    refine ⟨nofun, fun hasked => ?_⟩
    obtain ⟨k, hle, hlt, _⟩ := hasked
    omega
  exhausted := ⟨fun _ => ⟨rfl, fun k hle hlt => by omega⟩, fun _ => rfl⟩
  overlong := nofun

/-- An allocation that asks nothing has a cursor behind it. -/
theorem quiet (hpos : 0 < attempts) (hasked : a'.asked = a.asked)
    (hkept : ∀ id, result = .ok id → a'.cursor.isSome = true)
    (hfailed : ∀ reason, result ≠ .error (.sourceFailed reason))
    (hexhausted : result ≠ .error .exhausted)
    (hoverlong : ∀ e, result = .error (.numeral e) → Overlong source a a') :
    Ended source attempts a result a' where
  asked_le := by omega
  le_asked := by omega
  silent _ := hasked
  last k hle hlt := by omega
  cursor id hok _ := hkept id hok
  failed reason := by
    refine ⟨fun h => absurd h (hfailed reason), fun hfound => ?_⟩
    obtain ⟨k, hle, hlt, _⟩ := hfound
    omega
  exhausted := ⟨fun h => absurd h hexhausted, fun hmany => by omega⟩
  overlong := hoverlong

/-- An answer that is of no use leaves an allocation with one attempt less. -/
theorem wasted (hcursor : a.cursor = none) (hwaste : source.Wastes a.reserved a.asked)
    (h : Ended source attempts { a with asked := a.asked + 1 } result a') :
    Ended source (attempts + 1) a result a' := by
  obtain ⟨hle, hmost, _, hlast, hkept, hfailed, hexhausted, hoverlong⟩ := h
  simp only at hle hmost
  have hlater : ∀ {k}, a.asked ≤ k → k ≠ a.asked → a.asked + 1 ≤ k := by omega
  refine {
    asked_le := by omega
    le_asked := by omega
    silent := fun hsome => by rw [hcursor] at hsome; cases hsome
    last := ?_
    cursor := ?_
    failed := fun reason => (hfailed reason).trans ⟨?_, ?_⟩
    exhausted := hexhausted.trans ⟨?_, ?_⟩
    overlong := ?_ }
  · intro k hk hlt hnumbers
    apply hlast k (hlater hk _) hlt hnumbers
    rintro rfl
    exact hwaste.not_numbers hnumbers
  · intro id hok hgiven
    apply hkept id hok
    cases hgiven with
    | inl hsome => exact .inl hsome
    | inr hnumbered =>
        obtain ⟨k, hk, hlt, hnumbers⟩ := hnumbered
        refine .inr ⟨k, hlater hk ?_, hlt, hnumbers⟩
        rintro rfl
        exact hwaste.not_numbers hnumbers
  · intro hasked
    obtain ⟨k, hk, hlt, hreason⟩ := hasked
    exact ⟨k, Nat.le_of_succ_le hk, hlt, hreason⟩
  · intro hasked
    obtain ⟨k, hk, hlt, hreason⟩ := hasked
    refine ⟨k, hlater hk ?_, hlt, hreason⟩
    rintro rfl
    exact hwaste.ne_error reason hreason
  · intro hall
    refine ⟨by simp only at hall; omega, fun k hk hlt => ?_⟩
    by_cases hfirst : k = a.asked
    · rw [hfirst]
      exact hwaste
    · exact hall.2 k (hlater hk hfirst) hlt
  · intro hall
    exact ⟨by simp only; omega, fun k hk hlt => hall.2 k (Nat.le_of_succ_le hk) hlt⟩
  · intro e hlong
    cases hoverlong e hlong with
    | read asked answer digits long =>
        exact .read ⟨Nat.le_of_succ_le asked.1, asked.2⟩ answer digits long
    | cursor start far => exact .cursor start far
    | seed asked answer used number far =>
        exact .seed ⟨Nat.le_of_succ_le asked.1, asked.2⟩ answer used number far

/-- Any other answer is the last one of an allocation. -/
theorem answered (hcursor : a.cursor = none) (huseful : ¬ source.Wastes a.reserved a.asked)
    (hasked : a'.asked = a.asked + 1)
    (hkept : ∀ id, result = .ok id → source.Numbers a.asked → a'.cursor.isSome = true)
    (hfailed : ∀ reason, result = .error (.sourceFailed reason) ↔ source a.asked = .error reason)
    (hexhausted : result ≠ .error .exhausted)
    (hoverlong : ∀ e, result = .error (.numeral e) → Overlong source a a') :
    Ended source (attempts + 1) a result a' := by
  have honly : ∀ {P : Nat → Prop}, (∃ k, a.asked ≤ k ∧ k < a'.asked ∧ P k) → P a.asked := by
    intro P hfound
    obtain ⟨k, hle, hlt, hk⟩ := hfound
    obtain rfl : k = a.asked := by omega
    exact hk
  refine {
    asked_le := by omega
    le_asked := by omega
    silent := fun hsome => by rw [hcursor] at hsome; cases hsome
    last := fun k hle hlt _ => by omega
    cursor := ?_
    failed := fun reason => (hfailed reason).trans ⟨?_, honly⟩
    exhausted := ⟨fun h => absurd h hexhausted, ?_⟩
    overlong := hoverlong }
  · intro id hok hgiven
    cases hgiven with
    | inl hsome =>
        rw [hcursor] at hsome
        cases hsome
    | inr hnumbered => exact hkept id hok (honly hnumbered)
  · exact fun hreason => ⟨a.asked, Nat.le_refl _, by omega, hreason⟩
  · exact fun hall => absurd (hall.2 a.asked (Nat.le_refl _) (by omega)) huseful

/-- An answer that is a failure ends an allocation. -/
theorem of_failure {reason : Text} (hcursor : a.cursor = none)
    (hreason : source a.asked = .error reason) : Ended source (attempts + 1) a
      (.error (.sourceFailed reason)) { a with asked := a.asked + 1 } := by
  refine answered hcursor (fun hwaste => hwaste.ne_error reason hreason) rfl nofun ?_ nofun nofun
  intro reason'
  rw [hreason]
  simp

/-- An answer that is an id ends an allocation if it has a number or is not in use. -/
theorem of_id {id : Text} (hcursor : a.cursor = none) (hid : source a.asked = .ok id)
    (huseful : id ∈ a.reserved → numbered? id ≠ none) (hasked : a'.asked = a.asked + 1)
    (hresult : (∃ newId, result = .ok newId ∧ (numbered? id ≠ none → a'.cursor.isSome = true)) ∨
      ∃ e, result = .error (.numeral e) ∧ Overlong source a a') :
    Ended source (attempts + 1) a result a' := by
  have hnumbers : source.Numbers a.asked → numbered? id ≠ none := by
    intro hnumbers
    obtain ⟨id', p, hid', hsome⟩ := hnumbers
    cases hid.symm.trans hid'
    simp [hsome]
  have huseless := IdSource.not_wastes_of_ok hid huseful
  have hfailed : ∀ {found : Except AllocationError Text},
      (∀ reason, found ≠ .error (.sourceFailed reason)) →
        ∀ reason, found = .error (.sourceFailed reason) ↔ source a.asked = .error reason := by
    intro found hfound reason
    rw [hid]
    exact ⟨fun h => absurd h (hfound reason), nofun⟩
  cases hresult with
  | inl hok =>
      obtain ⟨newId, rfl, hsome⟩ := hok
      exact answered hcursor huseless hasked (fun _ _ h => hsome (hnumbers h)) (hfailed nofun) nofun
        nofun
  | inr hlong =>
      obtain ⟨e, rfl, hlong⟩ := hlong
      exact answered hcursor huseless hasked nofun (hfailed nofun) nofun fun _ _ => hlong

end Ended

theorem fromSource_ended {attempts : Nat} (hcursor : a.cursor = none)
    (h : fromSource source attempts a = (result, a')) : Ended source attempts a result a' := by
  induction attempts generalizing a with
  | zero =>
      cases h
      exact .nil
  | succ attempts ih =>
      have hasked : a.asked ≤ a.asked ∧ a.asked < a.asked + 1 := ⟨Nat.le_refl _, Nat.lt_succ_self _⟩
      rw [fromSource_succ] at h
      split at h
      · next reason hreason =>
        cases h
        exact .of_failure hcursor hreason
      · next id hid =>
        split at h
        · next e hparts =>
          cases h
          obtain ⟨stem, suffix, rfl, hstem, hdigits, hlong⟩ := parts_eq_error hparts
          have hnumber := numbered?_eq_some.mpr ⟨hstem, suffix, rfl, hdigits, rfl⟩
          exact .of_id hcursor hid (fun _ => by simp [hnumber]) rfl
            (.inr ⟨e, rfl, .read hasked hid hdigits hlong⟩)
        · next stem n hparts =>
          have hnumber : numbered? id = some (stem, n) := numbered?_of_parts hparts
          have huseful : id ∈ a.reserved → numbered? id ≠ none := fun _ => by simp [hnumber]
          split at h
          · next hused =>
            obtain ⟨hsame, hcases⟩ := fromCursor_cases h
            refine .of_id hcursor hid huseful hsame ?_
            cases hcases with
            | inl hok =>
                obtain ⟨newId, rfl, hsome⟩ := hok
                exact .inl ⟨newId, rfl, fun _ => hsome⟩
            | inr hfar =>
                obtain ⟨e, rfl, hfar⟩ := hfar
                exact .inr ⟨e, rfl, .seed (hsame ▸ hasked) hid hused hnumber hfar⟩
          · cases h
            exact .of_id hcursor hid huseful rfl (.inl ⟨id, rfl, fun _ => rfl⟩)
        · next stem hparts =>
          have hnumber : numbered? id = none := numbered?_of_parts hparts
          split at h
          · next hused => exact .wasted hcursor ⟨id, hused, hid, hnumber⟩ (ih hcursor h)
          · next hfree =>
            cases h
            exact .of_id hcursor hid (fun hused => absurd hused hfree) rfl
              (.inl ⟨id, rfl, fun hnumbered => absurd hnumber hnumbered⟩)

theorem next_ended (source : IdSource) (a : Allocator) :
    Ended source maxAttempts a (a.next source).1 (a.next source).2 := by
  cases hcursor : a.cursor with
  | none =>
      have hnext : a.next source = fromSource source maxAttempts a := by simp only [next, hcursor]
      rw [hnext]
      exact fromSource_ended hcursor rfl
  | some c =>
      have hnext : a.next source = a.fromCursor c := by simp only [next, hcursor]
      rcases hrun : a.fromCursor c with ⟨result, a'⟩
      obtain ⟨hasked, hcases⟩ := fromCursor_cases hrun
      rw [hnext, hrun]
      cases hcases with
      | inl hok =>
          obtain ⟨id, rfl, hkept⟩ := hok
          exact .quiet (by decide) hasked (fun _ _ => hkept) (fun _ h => by cases h)
            (fun h => by cases h) fun _ h => by cases h
      | inr hfar =>
          obtain ⟨e, rfl, hfar⟩ := hfar
          exact .quiet (by decide) hasked (fun _ h => by cases h) (fun _ h => by cases h)
            (fun h => by cases h) fun _ _ => .cursor hcursor hfar

/-- The source is asked a question in an allocation. -/
def Asks (source : IdSource) (a : Allocator) (k : Nat) : Prop :=
  a.asked ≤ k ∧ k < (a.next source).2.asked

/-- An allocation asks as often as it may, and no answer is of any use. -/
def Exhausts (source : IdSource) (a : Allocator) : Prop :=
  (a.next source).2.asked = a.asked + maxAttempts ∧
    ∀ k, a.Asks source k → source.Wastes a.reserved k

end Allocator

namespace Resolver

/-- The states in which a run comes to a record that needs a fresh id, up to the first for which
there is none. -/
def needs (source : IdSource) (s : Resolver) : List Text → List Resolver
  | [] => []
  | id :: rest =>
    if id ∈ s.claimed then
      s :: match s.allocator.next source with
        | (.ok newId, allocator) => (s.remap id newId allocator).needs source rest
        | (.error _, _) => []
    else
      (s.keep id).needs source rest

theorem needs_cons (source : IdSource) (s : Resolver) (id : Text) (rest : List Text) :
    s.needs source (id :: rest) =
      if id ∈ s.claimed then
        s :: match s.allocator.next source with
          | (.ok newId, allocator) => (s.remap id newId allocator).needs source rest
          | (.error _, _) => []
      else (s.keep id).needs source rest :=
  rfl

variable {source : IdSource} {s : Resolver} {ids : List Text}

/-- A property of runs holds if it holds of the empty run and is handed on by each step: a record
keeps its id, one gets a fresh id, or there is none for it. -/
theorem run_induction {P : Resolver → List Text → Except AllocationError Unit × Resolver →
      List Resolver → Prop}
    (nil : ∀ s, P s [] (.ok (), s) [])
    (keep : ∀ s id rest, id ∉ s.claimed →
      P (s.keep id) rest ((s.keep id).run source rest) ((s.keep id).needs source rest) →
      P s (id :: rest) ((s.keep id).run source rest) ((s.keep id).needs source rest))
    (remap : ∀ s id rest newId allocator, id ∈ s.claimed →
      s.allocator.next source = (.ok newId, allocator) →
      P (s.remap id newId allocator) rest ((s.remap id newId allocator).run source rest)
        ((s.remap id newId allocator).needs source rest) →
      P s (id :: rest) ((s.remap id newId allocator).run source rest)
        (s :: (s.remap id newId allocator).needs source rest))
    (fail : ∀ s id rest e allocator, id ∈ s.claimed →
      s.allocator.next source = (.error e, allocator) →
      P s (id :: rest) (.error e, { s with allocator }) [s])
    (s : Resolver) (ids : List Text) : P s ids (s.run source ids) (s.needs source ids) := by
  induction ids generalizing s with
  | nil => exact nil s
  | cons id rest ih =>
      rw [run_cons, needs_cons]
      by_cases hclaimed : id ∈ s.claimed
      · rw [if_pos hclaimed, if_pos hclaimed]
        rcases hnext : s.allocator.next source with ⟨e | newId, allocator⟩
        · exact fail s id rest e allocator hclaimed hnext
        · exact remap s id rest newId allocator hclaimed hnext (ih _)
      · rw [if_neg hclaimed, if_neg hclaimed]
        exact keep s id rest hclaimed (ih _)

/-- A run fails as the allocation does that fails. -/
theorem run_eq_error_iff {e : AllocationError} : (s.run source ids).1 = .error e ↔
    ∃ t ∈ s.needs source ids, (t.allocator.next source).1 = .error e := by
  apply run_induction (P := fun _ _ outcome needs =>
    outcome.1 = .error e ↔ ∃ t ∈ needs, (t.allocator.next source).1 = .error e)
  · intro s
    simp
  · exact fun s id rest _ ih => ih
  · intro s id rest newId allocator _ hnext ih
    simp [ih, hnext]
  · intro s id rest e' allocator _ hnext
    simp [hnext]

theorem asked_le_run (source : IdSource) (s : Resolver) (ids : List Text) :
    s.allocator.asked ≤ (s.run source ids).2.allocator.asked := by
  apply run_induction (P := fun s _ outcome _ =>
    s.allocator.asked ≤ outcome.2.allocator.asked)
  · exact fun s => Nat.le_refl _
  · exact fun s id rest _ ih => ih
  · intro s id rest newId allocator _ hnext ih
    have hle := (s.allocator.next_ended source).asked_le
    rw [hnext] at hle
    exact Nat.le_trans hle ih
  · intro s id rest e allocator _ hnext
    have hle := (s.allocator.next_ended source).asked_le
    rw [hnext] at hle
    exact hle

/-- Every question of a run is one of an allocation in it. -/
theorem asked_run_iff {k : Nat} :
    s.allocator.asked ≤ k ∧ k < (s.run source ids).2.allocator.asked ↔
      ∃ t ∈ s.needs source ids, t.allocator.Asks source k := by
  apply run_induction (P := fun s _ outcome needs =>
    s.allocator.asked ≤ k ∧ k < outcome.2.allocator.asked ↔
      ∃ t ∈ needs, t.allocator.Asks source k)
  · intro s
    simp
  · exact fun s id rest _ ih => ih
  · intro s id rest newId allocator _ hnext ih
    have hle := (s.allocator.next_ended source).asked_le
    have hmore := asked_le_run source (s.remap id newId allocator) rest
    have hasked : (s.remap id newId allocator).allocator.asked = allocator.asked := rfl
    rw [List.exists_mem_cons_iff, ← ih]
    simp only [Allocator.Asks, hnext, hasked] at hle hmore ⊢
    omega
  · intro s id rest e allocator _ hnext
    simp [Allocator.Asks, hnext]

/-- With a cursor a run asks nothing. -/
theorem asked_run_of_cursor (h : s.allocator.cursor.isSome = true) :
    (s.run source ids).2.allocator.asked = s.allocator.asked := by
  revert h
  apply run_induction (P := fun s _ outcome _ =>
    s.allocator.cursor.isSome = true → outcome.2.allocator.asked = s.allocator.asked)
  · exact fun s _ => rfl
  · exact fun s id rest _ ih => ih
  · intro s id rest newId allocator _ hnext ih hcursor
    have hended := s.allocator.next_ended source
    rw [hnext] at hended
    rw [ih (hended.cursor newId rfl (.inl hcursor))]
    exact hended.silent hcursor
  · intro s id rest e allocator _ hnext hcursor
    have hended := s.allocator.next_ended source
    rw [hnext] at hended
    exact hended.silent hcursor

/-- An answer with a number is the last one of a run. -/
theorem asked_run_of_numbers {k : Nat} (hle : s.allocator.asked ≤ k)
    (hlt : k < (s.run source ids).2.allocator.asked) (hnumbers : source.Numbers k) :
    k + 1 = (s.run source ids).2.allocator.asked := by
  revert hle hlt
  apply run_induction (P := fun s _ outcome _ =>
    s.allocator.asked ≤ k → k < outcome.2.allocator.asked → k + 1 = outcome.2.allocator.asked)
  · intro s hle hlt
    simp only at hlt
    omega
  · exact fun s id rest _ ih => ih
  · intro s id rest newId allocator _ hnext ih hle hlt
    have hended := s.allocator.next_ended source
    rw [hnext] at hended
    by_cases hfirst : k < allocator.asked
    · have hcursor := hended.cursor newId rfl (.inr ⟨k, hle, hfirst, hnumbers⟩)
      have hsame : (s.remap id newId allocator).allocator.cursor.isSome = true := hcursor
      rw [asked_run_of_cursor hsame]
      exact hended.last k hle hfirst hnumbers
    · exact ih (Nat.le_of_not_lt hfirst) hlt
  · intro s id rest e allocator _ hnext hle hlt
    have hended := s.allocator.next_ended source
    rw [hnext] at hended
    exact hended.last k hle hlt hnumbers

/-- The ids in use are those reserved from the start and those that records have got. -/
def UsesFrom (reserved : List Text) (s : Resolver) : Prop :=
  ∀ id, id ∈ s.allocator.reserved ↔ id ∈ reserved ∨ id ∈ s.resolutions.map Resolution.newId

theorem usesFrom_start (headIds reserved : List Text) :
    (start headIds reserved).UsesFrom reserved := by
  intro id
  simp [start, Resolution.keep, Function.comp_def]

theorem UsesFrom.needs {reserved : List Text} (h : s.UsesFrom reserved) :
    ∀ t ∈ s.needs source ids, t.UsesFrom reserved := by
  revert h
  apply run_induction (P := fun s _ _ needs =>
    s.UsesFrom reserved → ∀ t ∈ needs, t.UsesFrom reserved)
  · exact fun s _ t ht => absurd ht List.not_mem_nil
  · intro s id rest _ ih h
    apply ih
    intro x
    simpa [keep, Allocator.reserve, Resolution.keep, h x, or_comm] using or_left_comm
  · intro s id rest newId allocator _ hnext ih h
    have hreserved := (Allocator.next_gives hnext).2
    refine List.forall_mem_cons.mpr ⟨h, ih fun x => ?_⟩
    simpa [remap, Allocator.reserve, Resolution.remap, hreserved, h x, or_comm] using or_left_comm
  · exact fun s id rest e allocator _ _ h => List.forall_mem_singleton.mpr h

/-- No record needs a fresh id that has one of its own, which no record before it has. -/
theorem needs_eq_nil (hnodup : ids.Nodup) (hfree : ∀ id ∈ ids, id ∉ s.claimed) :
    s.needs source ids = [] := by
  induction ids generalizing s with
  | nil => rfl
  | cons id ids ih =>
      obtain ⟨hid, hrest⟩ := List.nodup_cons.mp hnodup
      obtain ⟨hfirst, hothers⟩ := List.forall_mem_cons.mp hfree
      rw [needs_cons, if_neg hfirst]
      refine ih hrest fun x hx hmem => ?_
      cases List.mem_cons.mp hmem with
      | inl heq => exact hid (heq ▸ hx)
      | inr hmem => exact hothers x hx hmem

end Resolver

namespace ResolutionPlan

/-- The states in which resolving the conflicts of a file comes to a record that needs a fresh id. -/
def needs (regions : List Region) (source : IdSource) (reserved : List Text) : List Resolver :=
  (Resolver.start (regions.flatMap Region.headIds) reserved).needs source
    (regions.flatMap Region.baseIds)

/-- What the source is asked when the conflicts of a file are resolved, and how that ends. -/
structure Accounted (regions : List Region) (source : IdSource) (reserved : List Text) : Prop where
  /-- Nothing is asked when the ids of the base side are different ones and none is of the head
  side. -/
  unneeded : (regions.flatMap Region.baseIds).Nodup →
    (∀ id ∈ regions.flatMap Region.baseIds, id ∉ regions.flatMap Region.headIds) →
      needs regions source reserved = [] ∧ (resolve regions source reserved).asked = 0
  /-- Each question is asked in one of the allocations, -/
  shared : ∀ k, k < (resolve regions source reserved).asked ↔
    ∃ t ∈ needs regions source reserved, t.allocator.Asks source k
  /-- and in each of them not more than so many are. -/
  bounded : ∀ t ∈ needs regions source reserved,
    (t.allocator.next source).2.asked ≤ t.allocator.asked + maxAttempts
  /-- In use are the reserved ids and those that records have got before. -/
  used : ∀ t ∈ needs regions source reserved, t.UsesFrom reserved
  /-- Behind an answer with a number nothing is asked. -/
  last : ∀ k < (resolve regions source reserved).asked, source.Numbers k →
    k + 1 = (resolve regions source reserved).asked
  /-- There is no plan if an answer is a failure, -/
  failed : ∀ reason, (resolve regions source reserved).plan = .error (.sourceFailed reason) ↔
    ∃ k < (resolve regions source reserved).asked, source k = .error reason
  /-- or if no answer of a whole allocation is of any use. -/
  exhausted : (resolve regions source reserved).plan = .error .exhausted ↔
    ∃ t ∈ needs regions source reserved, t.allocator.Exhausts source
  /-- Otherwise there is one for all records, with fresh ids where they are needed, unless a number is
  too long. -/
  complete : (∃ plan, (resolve regions source reserved).plan = .ok plan ∧
      plan.Settles source regions reserved ∧ plan.resolutions.map Resolution.oldId =
        regions.flatMap Region.headIds ++ regions.flatMap Region.baseIds) ∨
    (∃ k < (resolve regions source reserved).asked, ∃ reason, source k = .error reason) ∨
    (∃ t ∈ needs regions source reserved, t.allocator.Exhausts source) ∨
    ∃ t ∈ needs regions source reserved,
      t.allocator.Overlong source (t.allocator.next source).2

variable {regions : List Region} {source : IdSource} {reserved : List Text}

theorem plan_eq_error_iff {e : AllocationError} :
    (resolve regions source reserved).plan = .error e ↔
      ∃ t ∈ needs regions source reserved, (t.allocator.next source).1 = .error e := by
  rw [needs, ← Resolver.run_eq_error_iff]
  simp only [resolve]
  rcases Resolver.run source _ _ with ⟨_ | _, s⟩ <;> simp [Except.map]

theorem lt_asked_iff {k : Nat} : k < (resolve regions source reserved).asked ↔
    ∃ t ∈ needs regions source reserved, t.allocator.Asks source k := by
  rw [needs, ← Resolver.asked_run_iff]
  exact ⟨fun h => ⟨Nat.zero_le k, h⟩, fun h => h.2⟩

theorem failed_iff {reason : Text} :
    (resolve regions source reserved).plan = .error (.sourceFailed reason) ↔
      ∃ k < (resolve regions source reserved).asked, source k = .error reason := by
  rw [plan_eq_error_iff]
  constructor
  · intro h
    obtain ⟨t, ht, hfailed⟩ := h
    obtain ⟨k, hle, hlt, hk⟩ := ((t.allocator.next_ended source).failed reason).mp hfailed
    exact ⟨k, lt_asked_iff.mpr ⟨t, ht, hle, hlt⟩, hk⟩
  · intro h
    obtain ⟨k, hasked, hk⟩ := h
    obtain ⟨t, ht, hle, hlt⟩ := lt_asked_iff.mp hasked
    exact ⟨t, ht, ((t.allocator.next_ended source).failed reason).mpr ⟨k, hle, hlt, hk⟩⟩

theorem exhausted_iff : (resolve regions source reserved).plan = .error .exhausted ↔
    ∃ t ∈ needs regions source reserved, t.allocator.Exhausts source := by
  rw [plan_eq_error_iff]
  refine exists_congr fun t => and_congr_right fun _ => ?_
  rw [(t.allocator.next_ended source).exhausted, Allocator.Exhausts]
  exact and_congr_right fun _ =>
    ⟨fun h k hasks => h k hasks.1 hasks.2, fun h k hle hlt => h k ⟨hle, hlt⟩⟩

theorem map_oldId_of_resolve {plan : ResolutionPlan}
    (h : (resolve regions source reserved).plan = .ok plan) :
    plan.resolutions.map Resolution.oldId =
      regions.flatMap Region.headIds ++ regions.flatMap Region.baseIds := by
  have hsettles := settles_of_resolve h
  rw [hsettles.resolutions, List.map_append, hsettles.map_oldId, List.map_map]
  exact congrArg (· ++ _) (List.map_id'' (fun _ => rfl) _)

end ResolutionPlan

/-- Whatever the source answers: it is asked only for a record that needs a fresh id, at most a hundred
times for one record, and no more once an answer has a number. There is no plan if and only if an
answer is a failure or a hundred answers for one record have no number and are in use, or else a
number is too long to be read or written. -/
theorem source_accounted (regions : List Region) (source : IdSource) (reserved : List Text) :
    ResolutionPlan.Accounted regions source reserved where
  unneeded hnodup hfree := by
    have hneeds : ResolutionPlan.needs regions source reserved = [] :=
      Resolver.needs_eq_nil hnodup hfree
    refine ⟨hneeds, Nat.eq_zero_of_not_pos fun hpos => ?_⟩
    obtain ⟨t, ht, _⟩ := ResolutionPlan.lt_asked_iff.mp hpos
    rw [hneeds] at ht
    exact List.not_mem_nil ht
  shared k := ResolutionPlan.lt_asked_iff
  bounded t _ := (t.allocator.next_ended source).le_asked
  used := (Resolver.usesFrom_start _ reserved).needs
  last k hasked hnumbers := Resolver.asked_run_of_numbers (Nat.zero_le k) hasked hnumbers
  failed reason := ResolutionPlan.failed_iff
  exhausted := ResolutionPlan.exhausted_iff
  complete := by
    cases hplan : (ResolutionPlan.resolve regions source reserved).plan with
    | ok plan =>
        exact .inl ⟨plan, rfl, ResolutionPlan.settles_of_resolve hplan,
          ResolutionPlan.map_oldId_of_resolve hplan⟩
    | error e =>
        cases e with
        | sourceFailed reason =>
            obtain ⟨k, hasked, hk⟩ := ResolutionPlan.failed_iff.mp hplan
            exact .inr (.inl ⟨k, hasked, reason, hk⟩)
        | exhausted => exact .inr (.inr (.inl (ResolutionPlan.exhausted_iff.mp hplan)))
        | numeral e =>
            obtain ⟨t, ht, hlong⟩ := ResolutionPlan.plan_eq_error_iff.mp hplan
            exact .inr (.inr (.inr ⟨t, ht, (t.allocator.next_ended source).overlong e hlong⟩))

/-- A source that gives the same id again and again and then, in its hundredth answer, another one. -/
def lateSource (late : Text) : IdSource :=
  fun k => .ok (if k < 99 then "x" else late)

-- The hundredth answer still counts, even when its id is in use, for it has a number.
example :
    let colliding : Region :=
      { openLine := 1, head := [{ id := "bd-1" }], base := [{ id := "bd-1" }] }
    let outcome (late : Text) := ResolutionPlan.resolve [colliding] (lateSource late) ["x", "bd-7"]
    (outcome "bd-7").asked = 100 ∧ (outcome "bd-7").plan.isOk = true ∧
      (outcome "x").asked = 100 ∧ (outcome "x").plan.isOk = false := by
  decide +kernel

end IssueMerge
