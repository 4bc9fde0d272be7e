import IssueMerge.Proofs.Disk.Follows
import IssueMerge.Proofs.Disk.Memory

/-!
What writing leaves on a disk. A text that is written can be read again; one that is written to a
file beside the file, and is not written in the end, leaves the disk as it was.
-/

namespace IssueMerge

/-- The file at a path has these lines. -/
def MemoryDisk.Holds (d : MemoryDisk) (path : Path) (lines : List Text) : Prop :=
  ∃ bytes content, d.read path = .ok bytes ∧ Utf8.decode bytes = .ok content ∧
    lines = content.lines

namespace Store

open Outcome MemoryDisk

variable {σ : Type} {s s' : σ} {path : Path} {content : Text}

theorem attempt_run (operation : StateM σ (Except FileError Unit)) (s : σ) :
    (attempt operation).run s =
      ((operation s).1.mapError FileError.toWriteError, (operation s).2) := by
  simp only [attempt, run_bind_lift]
  rcases operation s with ⟨_ | _, s'⟩ <;> rfl

theorem attempt_ok {operation : StateM σ (Except FileError Unit)} {u : Unit}
    (h : (attempt operation).run s = (.ok u, s')) : operation s = (.ok (), s') := by
  rw [attempt_run] at h
  rcases hop : operation s with ⟨_ | _, s₁⟩ <;> rw [hop] at h <;> cases h
  rfl

theorem attempt_error {operation : StateM σ (Except FileError Unit)} {e : WriteError}
    (h : (attempt operation).run s = (.error e, s')) : ∃ e', operation s = (.error e', s') := by
  rw [attempt_run] at h
  rcases hop : operation s with ⟨e' | _, s₁⟩ <;> rw [hop] at h <;> cases h
  exact ⟨e', rfl⟩

theorem writeLines_run {write : Writer (StateM σ)} {lines : List Text} {r : Except StoreError Unit}
    (h : (writeLines write path lines).run s = (r, s')) :
    ∃ r', (write path (Text.unlines lines)).run s = (r', s') ∧ (r = .ok () ↔ r' = .ok ()) := by
  rcases hwrite : (write path (Text.unlines lines)).run s with ⟨r', s₁⟩
  simp only [writeLines, Disk.outcome, run_bind_lift, hwrite] at h
  rcases r' with (_ | _ | _) | _ <;> cases h <;> exact ⟨_, rfl, by simp⟩

section

variable [Disk (StateM σ)] {view : σ → MemoryDisk} (hdisk : Disk.Follows view)

include hdisk

theorem writeInPlace_ok {u : Unit} (h : (writeInPlace (m := StateM σ) path content).run s = (.ok u, s')) :
    ∃ bytes, Utf8.encode content = .ok bytes ∧ (view s).putFile path bytes = .ok (view s') := by
  obtain ⟨_, s₁, hcreate, h⟩ := run_bind_ok.mp h
  have hcreated := hdisk.create_ok (attempt_ok hcreate)
  split at h
  · cases h
  · next bytes hbytes =>
    exact ⟨bytes, hbytes, putFile_putFile hcreated (hdisk.fill_ok (attempt_ok h))⟩

theorem writeInPlace_error {e : WriteError}
    (h : (writeInPlace (m := StateM σ) path content).run s = (.error e, s')) :
    view s' = view s ∨ ∃ part, (view s).putFile path part = .ok (view s') := by
  cases run_bind_error.mp h with
  | inl h =>
      obtain ⟨_, hop⟩ := attempt_error h
      exact .inl (hdisk.create_error hop)
  | inr h =>
      obtain ⟨_, s₁, hcreate, h⟩ := h
      have hcreated := hdisk.create_ok (attempt_ok hcreate)
      split at h
      · cases h
        exact .inr ⟨[], hcreated⟩
      · obtain ⟨_, hop⟩ := attempt_error h
        cases hdisk.fill_error hop with
        | inl hsame =>
            rw [hsame]
            exact .inr ⟨[], hcreated⟩
        | inr hpart =>
            obtain ⟨part, hpart⟩ := hpart
            exact .inr ⟨part, putFile_putFile hcreated hpart⟩

theorem replaceBy_ok {beside : Path} {u : Unit}
    (h : (replaceBy (m := StateM σ) beside path content).run s = (.ok u, s')) :
    ∃ bytes d, Utf8.encode content = .ok bytes ∧ (view s).putFile beside bytes = .ok d ∧
      d.rename beside path = .ok (view s') := by
  obtain ⟨_, s₁, hwrite, h⟩ := run_bind_ok.mp h
  obtain ⟨bytes, hbytes, hput⟩ := writeInPlace_ok hdisk hwrite
  exact ⟨bytes, _, hbytes, hput, hdisk.rename_ok (attempt_ok h)⟩

theorem replaceBy_error {beside : Path} {e : WriteError}
    (h : (replaceBy (m := StateM σ) beside path content).run s = (.error e, s')) :
    view s' = view s ∨ ∃ part, (view s).putFile beside part = .ok (view s') := by
  cases run_bind_error.mp h with
  | inl h => exact writeInPlace_error hdisk h
  | inr h =>
      obtain ⟨_, s₁, hwrite, h⟩ := h
      obtain ⟨bytes, _, hput⟩ := writeInPlace_ok hdisk hwrite
      obtain ⟨_, hop⟩ := attempt_error h
      rw [hdisk.rename_error hop]
      exact .inr ⟨bytes, hput⟩

end

/-- A file was put in the place of another from beside it. -/
def Replaced (path : Path) (bytes : Bytes) (d d' : MemoryDisk) : Prop :=
  ∃ b t, d.place (besidePath path) = .ok b ∧ d.place path = .ok t ∧ b ≠ t ∧
    d.node? b ≠ some .directory ∧ d.node? t ≠ some .directory ∧
      d' = (d.erase b).put t (.file bytes)

theorem replaced {bytes : Bytes} {d d₁ d' : MemoryDisk}
    (hput : d.putFile (besidePath path) bytes = .ok d₁)
    (hrename : d₁.rename (besidePath path) path = .ok d') : Replaced path bytes d d' := by
  have hsame := sameDirectories_putFile hput
  obtain ⟨b, hb, hbnode, rfl⟩ := putFile_eq_ok.mp hput
  obtain ⟨b', t, content, hb', ht, hcontent, htnode, rfl⟩ := rename_eq_ok hrename
  obtain rfl : b' = b := Except.ok.inj (((place_congr hsame).mp hb').symm.trans hb)
  have ht' := (place_congr hsame).mp ht
  have hne := place_beside_ne hb ht'
  rw [node?_put_self (ne_nil_of_node? hbnode)] at hcontent
  rw [node?_put_of_ne hne.symm] at htnode
  cases hcontent
  exact ⟨b', t, hb, ht', hne, hbnode, htnode, by rw [erase_put]⟩

namespace Replaced

variable {bytes : Bytes} {d d' : MemoryDisk}

protected theorem sameDirectories (h : Replaced path bytes d d') : SameDirectories d d' := by
  obtain ⟨b, t, _, _, hne, hb, ht, rfl⟩ := h
  have herase := sameDirectories_erase hb
  refine herase.trans (sameDirectories_put ?_ bytes)
  rw [node?_erase_of_ne hne.symm]
  exact ht

theorem node?_beside (h : Replaced path bytes d d') :
    ∃ b, d'.place (besidePath path) = .ok b ∧ d'.node? b = none := by
  have hsame := h.sameDirectories
  obtain ⟨b, t, hb, _, hne, hbnode, _, rfl⟩ := h
  refine ⟨b, (place_congr hsame).mpr hb, ?_⟩
  rw [node?_put_of_ne hne, node?_erase_self (ne_nil_of_node? hbnode)]

theorem kind?_beside (h : Replaced path bytes d d') : d'.kind? (besidePath path) = .ok none := by
  obtain ⟨b, hb, hnone⟩ := h.node?_beside
  simp only [kind?, lookup, hb, hnone, bind, Except.bind]

theorem vacant_beside (h : Replaced path bytes d d') : d'.Vacant (besidePath path) := by
  obtain ⟨b, hb, hnone⟩ := h.node?_beside
  refine vacant_iff.mpr fun b' hb' => ?_
  cases hb.symm.trans hb'
  exact hnone

/-- The file that took the place of the other can be read. -/
theorem read_eq (h : Replaced path bytes d d') : d'.read path = .ok bytes := by
  have hsame := h.sameDirectories
  obtain ⟨b, t, _, ht, _, _, htnode, rfl⟩ := h
  exact read_of_node ((place_congr hsame).mpr ht) (node?_put_self (ne_nil_of_node? htnode) _ _)

/-- Where nothing stood beside the file, nothing but the file is changed. -/
theorem eq_put (h : Replaced path bytes d d') (hvacant : d.Vacant (besidePath path)) :
    ∃ t, d.place path = .ok t ∧ d' = d.put t (.file bytes) := by
  obtain ⟨b, t, hb, ht, _, _, _, rfl⟩ := h
  exact ⟨t, ht, by rw [erase_of_vacant (vacant_iff.mp hvacant b hb)]⟩

end Replaced

section

variable [Disk (StateM σ)] {view : σ → MemoryDisk} (hdisk : Disk.Follows view)

include hdisk

theorem present_run {p : Path} {r : Except OsError Bool}
    (h : (Disk.present (m := StateM σ) p).run s = (r, s')) : view s' = view s ∧
      r = match (view s).kind? p with
        | .ok kind => .ok kind.isSome
        | .error .nullByte => .ok false
        | .error (.os e) => .error e := by
  cases hkind : Disk.kind? (m := StateM σ) p s with
  | mk kind s₁ =>
      obtain ⟨heq, hview⟩ := hdisk.kind?_eq hkind
      simp only [Disk.present, run_bind_lift, hkind] at h
      rw [← heq]
      rcases kind with (e | _) | kind <;> cases h <;> exact ⟨hview, rfl⟩

theorem present_of_vacant {p : Path} {r : Except OsError Bool} (hvacant : (view s).Vacant p)
    (h : (Disk.present (m := StateM σ) p).run s = (r, s')) : r ≠ .ok true := by
  rintro rfl
  obtain ⟨_, hr⟩ := present_run hdisk h
  cases hkind : (view s).kind? p with
  | error e => cases e <;> rw [hkind] at hr <;> cases hr
  | ok kind =>
      rw [hkind, kind?_of_vacant hvacant hkind] at hr
      cases hr

theorem remove_run {p : Path} {result r : Except WriteError Unit} {d : MemoryDisk}
    (hremove : (view s).remove p = .ok d)
    (h : (attempt (m := StateM σ) (Disk.remove p) >>= fun _ => ExceptT.mk (pure result)).run s =
      (r, s')) : r = result ∧ view s' = d := by
  rcases hop : Disk.remove (m := StateM σ) p s with ⟨removed, s₁⟩
  obtain ⟨rfl, hview⟩ := hdisk.remove_eq hop hremove
  rw [run_bind, attempt_run, hop] at h
  cases h
  exact ⟨rfl, hview⟩

theorem writeAtomic_of_ok {s₁ : σ} {u : Unit} {r : Except WriteError Unit}
    (hreplace : (replaceBy (m := StateM σ) (besidePath path) path content).run s = (.ok u, s₁))
    (h : (writeAtomic (m := StateM σ) path content).run s = (r, s')) :
    ∃ bytes, r = .ok () ∧ Utf8.encode content = .ok bytes ∧
      Replaced path bytes (view s) (view s') := by
  obtain ⟨bytes, d, hbytes, hput, hrename⟩ := replaceBy_ok hdisk hreplace
  have hreplaced := replaced hput hrename
  rcases hpresent : (Disk.present (m := StateM σ) (besidePath path)).run s₁ with ⟨found, s₂⟩
  obtain ⟨hview, hfound⟩ := present_run hdisk hpresent
  simp only [writeAtomic, Disk.outcome, run_bind_lift, hreplace, hpresent] at h
  rw [hreplaced.kind?_beside] at hfound
  subst hfound
  cases h
  rw [← hview] at hreplaced
  exact ⟨bytes, rfl, hbytes, hreplaced⟩

/-- A writing that fails takes away what it made beside the file. -/
theorem writeAtomic_of_error {s₁ : σ} {e : WriteError} {r : Except WriteError Unit}
    (hreplace : (replaceBy (m := StateM σ) (besidePath path) path content).run s = (.error e, s₁))
    (h : (writeAtomic (m := StateM σ) path content).run s = (r, s')) :
    (∃ e, r = .error e) ∧ ((view s).Vacant (besidePath path) → view s' = view s) := by
  rcases hpresent : (Disk.present (m := StateM σ) (besidePath path)).run s₁ with ⟨found, s₂⟩
  obtain ⟨hview, hfound⟩ := present_run hdisk hpresent
  simp only [writeAtomic, Disk.outcome, run_bind_lift, hreplace, hpresent] at h
  refine ⟨?_, fun hvacant => ?_⟩
  · rcases found with e' | (_ | _)
    · cases h
      exact ⟨_, rfl⟩
    · cases h
      exact ⟨_, rfl⟩
    · simp only [run_bind] at h
      rcases hop : (attempt (m := StateM σ) (Disk.remove (besidePath path))).run s₂ with
        ⟨_ | _, s₃⟩ <;> rw [hop] at h <;> cases h <;> exact ⟨_, rfl⟩
  · rcases replaceBy_error hdisk hreplace with hsame | ⟨part, hput⟩
    · rw [← hsame] at hvacant
      rw [← hsame, ← hview]
      rcases found with e' | (_ | _)
      · cases h
        rfl
      · cases h
        rfl
      · exact absurd rfl (present_of_vacant hdisk hvacant hpresent)
    · rw [kind?_putFile hput] at hfound
      subst hfound
      have hremove := remove_putFile hvacant hput
      rw [← hview] at hremove
      exact (remove_run hdisk hremove h).2

/-- The file is replaced, or, if nothing stood beside it, the disk is as it was. -/
theorem writeAtomic_run {r : Except WriteError Unit}
    (h : (writeAtomic (m := StateM σ) path content).run s = (r, s')) :
    (∃ bytes, r = .ok () ∧ Utf8.encode content = .ok bytes ∧
      Replaced path bytes (view s) (view s')) ∨
    ((∃ e, r = .error e) ∧ ((view s).Vacant (besidePath path) → view s' = view s)) := by
  rcases hreplace : (replaceBy (m := StateM σ) (besidePath path) path content).run s with
    ⟨_ | _, s₁⟩
  · exact .inr (writeAtomic_of_error hdisk hreplace h)
  · exact .inl (writeAtomic_of_ok hdisk hreplace h)

/-- Both ways to write leave a file with the bytes of the text. -/
theorem read_of_write {write : Writer (StateM σ)}
    (hwrite : write = writeInPlace ∨ write = writeAtomic) {u : Unit}
    (h : (write path content).run s = (.ok u, s')) :
    ∃ bytes, Utf8.encode content = .ok bytes ∧ (view s').read path = .ok bytes := by
  rcases hwrite with rfl | rfl
  · obtain ⟨bytes, hbytes, hput⟩ := writeInPlace_ok hdisk h
    exact ⟨bytes, hbytes, read_putFile hput⟩
  · rcases writeAtomic_run hdisk h with ⟨bytes, _, hbytes, hreplaced⟩ | ⟨⟨_, ⟨⟩⟩, _⟩
    exact ⟨bytes, hbytes, hreplaced.read_eq⟩

theorem readLines_run {r : Except StoreError (List Text)}
    (h : (readLines (m := StateM σ) path).run s = (r, s')) : view s' = view s ∧
      ∀ lines, r = .ok lines → (view s).Holds path lines := by
  rcases hread : Disk.read (m := StateM σ) path s with ⟨found, s₁⟩
  have hview := hdisk.read_view hread
  simp only [readLines, run_bind_lift, hread] at h
  rcases found with (e | _) | bytes
  · cases h
    exact ⟨hview, by rintro _ ⟨⟩⟩
  · cases h
    exact ⟨hview, by rintro _ ⟨⟩⟩
  · have hbytes := hdisk.read_ok hread
    cases hcontent : Utf8.decode bytes with
    | error e =>
        simp only [hcontent] at h
        cases h
        exact ⟨hview, by rintro _ ⟨⟩⟩
    | ok content =>
        simp only [hcontent] at h
        cases h
        refine ⟨hview, ?_⟩
        rintro _ ⟨⟩
        exact ⟨bytes, content, hbytes, hcontent, rfl⟩

end

theorem readLines_of_holds {d : MemoryDisk} {lines : List Text} (h : d.Holds path lines) :
    (readLines (m := StateM MemoryDisk) path).run d = (.ok lines, d) := by
  obtain ⟨bytes, content, hread, hcontent, rfl⟩ := h
  have hdisk : Disk.read (m := StateM MemoryDisk) path d = (.ok bytes, d) := by
    rw [← hread]
    rfl
  simp only [readLines, run_bind_lift, hdisk, hcontent]
  rfl

end Store

end IssueMerge
