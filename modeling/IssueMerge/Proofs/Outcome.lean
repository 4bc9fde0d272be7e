/-!
When a computation that may fail gives a result.
-/

namespace IssueMerge

namespace Outcome

variable {ε δ α β : Type}

theorem bind_eq_ok {x : Except ε α} {f : α → Except ε β} {b : β} :
    x >>= f = .ok b ↔ ∃ a, x = .ok a ∧ f a = .ok b := by
  cases x with
  | error e => simp [bind, Except.bind]
  | ok a => simp [bind, Except.bind]

theorem map_eq_ok {x : Except ε α} {f : α → β} {b : β} :
    f <$> x = .ok b ↔ ∃ a, x = .ok a ∧ f a = b := by
  cases x with
  | error e => simp [Functor.map, Except.map]
  | ok a => simp [Functor.map, Except.map]

/-- Two computations that agree but for what is forgotten of their results still do when they go on in
the same way. -/
theorem map_bind_congr {g : α → α} {x y : Except ε α} {f f' : α → Except ε α} (h : g <$> x = g <$> y)
    (hf : ∀ a b, g a = g b → g <$> f a = g <$> f' b) : g <$> (x >>= f) = g <$> (y >>= f') := by
  cases x with
  | error e =>
      cases y with
      | error e' =>
          cases h
          rfl
      | ok b => cases h
  | ok a =>
      cases y with
      | error e => cases h
      | ok b => exact hf a b (Except.ok.inj h)

theorem eq_of_map_eq {g : α → α} {x y : Except ε α} (h : g <$> x = g <$> y)
    (hx : ∀ a, x = .ok a → g a = a) (hy : ∀ a, y = .ok a → g a = a) : x = y := by
  cases x with
  | error e =>
      cases y with
      | error e' =>
          cases h
          rfl
      | ok b => cases h
  | ok a =>
      cases y with
      | error e => cases h
      | ok b =>
          have hab : g a = g b := Except.ok.inj h
          rw [← hx a rfl, ← hy b rfl, hab]

theorem mapError_eq_ok {x : Except ε α} {f : ε → δ} {a : α} :
    x.mapError f = .ok a ↔ x = .ok a := by
  cases x with
  | error e =>
      constructor <;> intro h <;> cases h
  | ok b =>
      constructor <;> intro h <;> cases h <;> rfl

theorem toOption_eq_some {x : Except ε α} {a : α} : x.toOption = some a ↔ x = .ok a := by
  cases x with
  | error e => simp [Except.toOption]
  | ok b => simp [Except.toOption]

section

variable {σ : Type} {x : ExceptT ε (StateM σ) α} {f : α → ExceptT ε (StateM σ) β} {s s' : σ}

theorem bind_apply {x : StateM σ α} {f : α → StateM σ β} : (x >>= f) s = f (x s).1 (x s).2 := rfl

theorem run_bind : (x >>= f).run s = ExceptT.bindCont f (x.run s).1 (x.run s).2 := rfl

theorem run_bind_ok {b : β} : (x >>= f).run s = (.ok b, s') ↔
    ∃ a s₁, x.run s = (.ok a, s₁) ∧ (f a).run s₁ = (.ok b, s') := by
  rw [run_bind]
  rcases x.run s with ⟨_ | a, s₁⟩
  · constructor
    · rintro ⟨⟩
    · rintro ⟨_, _, ⟨⟩, _⟩
  · exact ⟨fun h => ⟨a, s₁, rfl, h⟩, by rintro ⟨_, _, ⟨⟩, h⟩; exact h⟩

theorem run_bind_error {e : ε} : (x >>= f).run s = (.error e, s') ↔
    x.run s = (.error e, s') ∨
      ∃ a s₁, x.run s = (.ok a, s₁) ∧ (f a).run s₁ = (.error e, s') := by
  rw [run_bind]
  rcases x.run s with ⟨e' | a, s₁⟩
  · constructor
    · rintro ⟨⟩
      exact .inl rfl
    · rintro (⟨⟨⟩⟩ | ⟨_, _, ⟨⟩, _⟩)
      rfl
  · constructor
    · exact fun h => .inr ⟨a, s₁, rfl, h⟩
    · rintro (⟨⟨⟩⟩ | ⟨_, _, ⟨⟩, h⟩)
      exact h

theorem run_bind_lift {op : StateM σ α} :
    ((ExceptT.lift op : ExceptT ε (StateM σ) α) >>= f).run s = (f (op s).1).run (op s).2 := rfl

end

end Outcome

end IssueMerge
