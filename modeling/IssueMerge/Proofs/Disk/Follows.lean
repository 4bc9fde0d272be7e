import IssueMerge.Disk.Unreliable
import IssueMerge.Proofs.Outcome

/-!
Disks that are seen as disks in memory. An operation is done there as it would be done in memory, or
it is refused and changes nothing; only a file that is being filled may be left with something else in
it.
-/

namespace IssueMerge

/-- The disk is seen as a disk in memory, and its operations do what they do there or are refused. -/
structure Disk.Follows {σ : Type} [Disk (StateM σ)] (view : σ → MemoryDisk) : Prop where
  read_view : ∀ {p s r s'}, Disk.read (m := StateM σ) p s = (r, s') → view s' = view s
  read_ok : ∀ {p s bytes s'}, Disk.read (m := StateM σ) p s = (.ok bytes, s') →
    (view s).read p = .ok bytes
  create_ok : ∀ {p s u s'}, Disk.create (m := StateM σ) p s = (.ok u, s') →
    (view s).putFile p [] = .ok (view s')
  create_error : ∀ {p s e s'}, Disk.create (m := StateM σ) p s = (.error e, s') →
    view s' = view s
  fill_ok : ∀ {p content s u s'}, Disk.fill (m := StateM σ) p content s = (.ok u, s') →
    (view s).putFile p content = .ok (view s')
  fill_error : ∀ {p content s e s'}, Disk.fill (m := StateM σ) p content s = (.error e, s') →
    view s' = view s ∨ ∃ part, (view s).putFile p part = .ok (view s')
  rename_ok : ∀ {p q s u s'}, Disk.rename (m := StateM σ) p q s = (.ok u, s') →
    (view s).rename p q = .ok (view s')
  rename_error : ∀ {p q s e s'}, Disk.rename (m := StateM σ) p q s = (.error e, s') →
    view s' = view s
  kind?_eq : ∀ {p s r s'}, Disk.kind? (m := StateM σ) p s = (r, s') →
    r = (view s).kind? p ∧ view s' = view s
  remove_eq : ∀ {p s r s'}, Disk.remove (m := StateM σ) p s = (r, s') →
    ∀ {d}, (view s).remove p = .ok d → r = .ok () ∧ view s' = d

namespace MemoryDisk

theorem change_ok {f : MemoryDisk → Except FileError MemoryDisk} {d d' : MemoryDisk} {u : Unit}
    (h : change f d = (.ok u, d')) : f d = .ok d' := by
  simp only [change] at h
  split at h
  · next hf =>
    cases h
    exact hf
  · cases h

theorem change_of_ok {f : MemoryDisk → Except FileError MemoryDisk} {d d' : MemoryDisk}
    (h : f d = .ok d') : change f d = (.ok (), d') := by
  simp only [change, h]

theorem change_error {f : MemoryDisk → Except FileError MemoryDisk} {d d' : MemoryDisk}
    {e : FileError} (h : change f d = (.error e, d')) : d' = d := by
  simp only [change] at h
  split at h
  · cases h
  · cases h
    rfl

/-- A disk in memory is seen as itself. -/
theorem follows : Disk.Follows (fun d : MemoryDisk => d) where
  read_view h := (congrArg Prod.snd h).symm
  read_ok h := congrArg Prod.fst h
  create_ok h := change_ok h
  create_error h := change_error h
  fill_ok h := change_ok h
  fill_error h := .inl (change_error h)
  rename_ok h := change_ok h
  rename_error h := change_error h
  kind?_eq h := ⟨(congrArg Prod.fst h).symm, (congrArg Prod.snd h).symm⟩
  remove_eq := by
    intro p s r s' h d hd
    simp only [Disk.remove, change, hd] at h
    cases h
    exact ⟨rfl, rfl⟩

end MemoryDisk

namespace UnreliableDisk

variable {α : Type} {partly : Fault → MemoryDisk → MemoryDisk}
  {operation : StateM MemoryDisk (Except FileError α)} {s s' : UnreliableDisk}

theorem attempt_ok {a : α} (h : attempt partly operation s = (.ok a, s')) :
    operation s.disk = (.ok a, s'.disk) := by
  simp only [attempt] at h
  split at h
  · cases h
  · obtain ⟨hresult, rfl⟩ := Prod.mk.inj h
    exact Prod.ext hresult rfl

theorem attempt_error {e : FileError} (h : attempt partly operation s = (.error e, s')) :
    (∃ fault, s'.disk = partly fault s.disk) ∨ operation s.disk = (.error e, s'.disk) := by
  simp only [attempt] at h
  split at h
  · next fault _ =>
    cases h
    exact .inl ⟨fault, rfl⟩
  · obtain ⟨hresult, rfl⟩ := Prod.mk.inj h
    exact .inr (Prod.ext hresult rfl)

theorem attempt_error_of_none {operation : StateM MemoryDisk (Except FileError α)} {e : FileError}
    (hnone : ∀ {d d' e}, operation d = (.error e, d') → d' = d)
    (h : attempt (fun _ d => d) operation s = (.error e, s')) : s'.disk = s.disk := by
  cases attempt_error h with
  | inl hfault =>
      obtain ⟨_, hfault⟩ := hfault
      exact hfault
  | inr hdone => exact hnone hdone

theorem fillPart_eq (p : Path) (content : Bytes) (fault : Fault) (d : MemoryDisk) :
    fillPart p content fault d = d ∨
      ∃ part, d.putFile p part = .ok (fillPart p content fault d) := by
  simp only [fillPart, MemoryDisk.change]
  cases h : d.putFile p (content.take fault.filled) with
  | error e => exact .inl rfl
  | ok d' => exact .inr ⟨_, h⟩

/-- An unreliable disk is seen as what is on it. -/
theorem follows : Disk.Follows UnreliableDisk.disk where
  read_view := by
    intro p s r s' h
    cases r with
    | ok bytes => exact (congrArg Prod.snd (attempt_ok h)).symm
    | error e => exact attempt_error_of_none (fun h => (congrArg Prod.snd h).symm) h
  read_ok h := congrArg Prod.fst (attempt_ok h)
  create_ok h := MemoryDisk.change_ok (attempt_ok h)
  create_error h := attempt_error_of_none MemoryDisk.change_error h
  fill_ok h := MemoryDisk.change_ok (attempt_ok h)
  fill_error := by
    intro p content s e s' h
    cases attempt_error h with
    | inl hfault =>
        obtain ⟨fault, hfault⟩ := hfault
        rw [hfault]
        exact fillPart_eq p content fault s.disk
    | inr hdone => exact .inl (MemoryDisk.change_error hdone)
  rename_ok h := MemoryDisk.change_ok (attempt_ok h)
  rename_error h := attempt_error_of_none MemoryDisk.change_error h
  kind?_eq := by
    rintro p s r s' ⟨⟩
    exact ⟨rfl, rfl⟩
  remove_eq := by
    rintro p s r s' ⟨⟩ d hd
    exact MemoryDisk.follows.remove_eq rfl hd

end UnreliableDisk

end IssueMerge
