import IssueMerge.Proofs.Conflict.Layout

/-!
The scan of a file finds the regions of its layout. What is open in the scan are the records of the
lines behind the last opening marker, so one step of the scan is one step of the division.
-/

namespace IssueMerge

open Outcome

namespace Scan

/-- The scan is at a place where these lines are open, the first of them numbered `start`. -/
def Stands (s : Scan) (start : Nat) : Layout.Pending → Prop
  | none => s.place = .outside ∧ s.pending = none
  | some (_, body) => s.place = placeBehind body ∧ s.pending = some {
      openLine := start
      head := (headPart body).filterMap Record.on?
      base := (basePart body).filterMap Record.on? }

variable {s : Scan} {start number : Nat} {opening line : Text} {body : List Text}

theorem step_outside (h : s.Stands start none) (hopen : LineKind.ofLine line ≠ .opening) :
    s.step number line = .ok s := by
  obtain ⟨hplace, hpending⟩ := h
  obtain ⟨place, pending, regions, warnings⟩ := s
  cases hplace
  cases hpending
  simp only [step, addContent]
  cases hk : LineKind.ofLine line with
  | opening => exact absurd hk hopen
  | blank | ancestor | divider | closing | content => rfl

theorem step_opening (number : Nat) (pending : Layout.Pending) (h : s.Stands start pending)
    (hk : LineKind.ofLine line = .opening) :
    ∃ s', s.step number line = .ok s' ∧ s'.Stands number (some (line, [])) ∧
      s'.regions = s.regions := by
  have hplace : s.place.after .opening = .head := by cases s.place <;> rfl
  cases pending with
  | none =>
      simp only [step, hk, h.2, hplace]
      exact ⟨_, rfl, ⟨rfl, rfl⟩, rfl⟩
  | some p =>
      simp only [step, hk, h.2, hplace]
      exact ⟨_, rfl, ⟨rfl, rfl⟩, rfl⟩

theorem step_closing (h : s.Stands start (some (opening, body)))
    (hk : LineKind.ofLine line = .closing) (hnumber : number = start + body.length + 1) :
    ∃ s', s.step number line = .ok s' ∧ s'.Stands (number + 1) none ∧
      s'.regions = s.regions ++ ((Block.conflict opening body line).region? start).toList := by
  have hplace : s.place.after .closing = .outside := by cases s.place <;> rfl
  simp only [step, hk, h.2, hplace]
  exact ⟨_, rfl, ⟨rfl, rfl⟩, by rw [hnumber]; rfl⟩

theorem add_placeBehind (region : Region) (r : Record) (body : List Text) :
    region.add (placeBehind body) r =
      { region with
        head := region.head ++ if placeBehind body = .head then [r] else []
        base := region.base ++ if placeBehind body = .base then [r] else [] } := by
  cases placeBehind body <;> simp [Region.add]

theorem step_inside (h : s.Stands start (some (opening, body)))
    (hopen : LineKind.ofLine line ≠ .opening) (hclose : LineKind.ofLine line ≠ .closing)
    (hlegible : placeBehind body ≠ .ancestor → Legible line) :
    ∃ s', s.step number line = .ok s' ∧ s'.Stands start (some (opening, body ++ [line])) ∧
      s'.regions = s.regions := by
  obtain ⟨hplace, hpending⟩ := h
  have hbehind := placeBehind_append body hopen hclose
  have hhead := filterMap_headPart_append body line (g := Record.on?)
    fun l hl => Record.on?_of_kind hl
  have hbase := filterMap_basePart_append body line (g := Record.on?)
  by_cases hk : LineKind.ofLine line = .content
  · have hstay : placeBehind (body ++ [line]) = placeBehind body := by
      rw [hbehind, hk]
      cases placeBehind body <;> rfl
    have hcontent : s.step number line = s.addContent line := by simp only [step, hk]
    rw [hcontent]
    simp only [addContent, hpending]
    split
    · next hancestor =>
      rw [hplace] at hancestor
      refine ⟨s, rfl, ⟨by rw [hstay, hplace], ?_⟩, rfl⟩
      simp only [hpending, hhead, hbase, hancestor, reduceCtorEq, ↓reduceIte, List.append_nil]
    · next hancestor =>
      rw [hplace] at hancestor
      simp only [(hlegible hancestor).ofLine?, bind, Except.bind]
      cases hon : Record.on? line with
      | none =>
          refine ⟨s, rfl, ⟨by rw [hstay, hplace], ?_⟩, rfl⟩
          simp only [hpending, hhead, hbase, hon, Option.toList_none, ite_self, List.append_nil]
      | some r =>
          refine ⟨_, rfl, ⟨by rw [hstay]; exact hplace, ?_⟩, rfl⟩
          simp only [hplace, add_placeBehind, hhead, hbase, hon, Option.toList_some]
  · have hnone := Record.on?_of_kind hk
    refine ⟨{ s with place := s.place.after (LineKind.ofLine line) }, ?_, ⟨?_, ?_⟩, rfl⟩
    · simp only [step, hpending]
      cases hkind : LineKind.ofLine line with
      | opening => exact absurd hkind hopen
      | closing => exact absurd hkind hclose
      | content => exact absurd hkind hk
      | blank | ancestor | divider => rfl
    · rw [hbehind, ← hplace]
    · simp only [hpending, hhead, hbase, hnone, Option.toList_none, ite_self, List.append_nil]

theorem step_advance {pending : Layout.Pending} (h : s.Stands start pending)
    (hnumber : number = start + pending.lines.length)
    (hlegible : pending.onSide = true → Legible line) :
    ∃ s', s.step number line = .ok s' ∧
      s'.Stands (start + ((Layout.advance pending line).1.flatMap Block.lines).length)
        (Layout.advance pending line).2 ∧
      s'.regions = s.regions ++ Layout.regionsFrom start (Layout.advance pending line).1 := by
  subst hnumber
  by_cases hopen : LineKind.ofLine line = .opening
  · obtain ⟨s', hstep, hs', hregions⟩ :=
      step_opening (start + pending.lines.length) pending h hopen
    cases pending with
    | none =>
        simp only [Layout.advance, hopen, ↓reduceIte]
        exact ⟨s', hstep, hs', by rw [hregions]; exact (List.append_nil _).symm⟩
    | some p =>
        simp only [Layout.advance, hopen, ↓reduceIte]
        refine ⟨s', hstep, ?_, by rw [hregions]; exact (List.append_nil _).symm⟩
        simpa [Block.lines, Layout.Pending.lines] using hs'
  · cases pending with
    | none =>
        simp only [Layout.advance, hopen, ↓reduceIte]
        exact ⟨s, step_outside h hopen, h, (List.append_nil _).symm⟩
    | some p =>
        by_cases hclose : LineKind.ofLine line = .closing
        · obtain ⟨s', hstep, hs', hregions⟩ := step_closing h hclose rfl
          simp only [Layout.advance, hclose, reduceCtorEq, ↓reduceIte]
          refine ⟨s', hstep, hs', ?_⟩
          simp only [hregions, Layout.regionsFrom, List.append_nil]
        · obtain ⟨s', hstep, hs', hregions⟩ :=
            step_inside h hopen hclose fun hplace => hlegible (decide_eq_true hplace)
          simp only [Layout.advance, hopen, hclose, ↓reduceIte]
          exact ⟨s', hstep, hs', by rw [hregions]; exact (List.append_nil _).symm⟩

theorem run_divide {lines : List Text} {pending : Layout.Pending}
    (hreadable : Layout.Readable pending lines) (h : s.Stands start pending)
    (hnumber : number = start + pending.lines.length) :
    ∃ s', s.run number lines = .ok s' ∧
      s'.regions = s.regions ++ Layout.regionsFrom start (Layout.divide pending lines) := by
  induction lines generalizing s start number pending with
  | nil =>
      refine ⟨s, rfl, ?_⟩
      cases pending <;> simp [Layout.divide, Layout.leftOpen, Layout.regionsFrom, Block.region?]
  | cons line lines ih =>
      obtain ⟨s₁, hstep, hs₁, hregions⟩ :=
        step_advance h hnumber fun hside => hreadable.1 (Layout.Pending.reads_of_onSide hside)
      have hcount := congrArg List.length (Layout.lines_advance pending line)
      simp only [List.length_append, List.length_singleton] at hcount
      obtain ⟨s', hrun, hs'⟩ := ih hreadable.2 hs₁ (show number + 1 = _ by omega)
      refine ⟨s', ?_, ?_⟩
      · simp only [run, hstep, bind, Except.bind]
        exact hrun
      · rw [hs', hregions, Layout.divide, Layout.regionsFrom_append, List.append_assoc]

end Scan

/-- The regions of a file are those of its layout. The text of ancestors need not be readable. -/
theorem Layout.Readable.regions_eq {lines : List Text} (h : Layout.Readable none lines) :
    Region.ofLines lines = .ok (Layout.regionsFrom 1 (Layout.ofLines lines)) := by
  have hstart : Scan.Stands {} 1 none := ⟨rfl, rfl⟩
  obtain ⟨s, hrun, hregions⟩ := Scan.run_divide h hstart rfl
  have hscan : Scan.ofLines lines = .ok s := hrun
  rw [Region.ofLines, hscan]
  exact congrArg Except.ok hregions

theorem Region.ofLines_eq {lines : List Text} (h : ∀ line ∈ lines, Legible line) :
    Region.ofLines lines = .ok (Layout.regionsFrom 1 (Layout.ofLines lines)) :=
  (Layout.readable_of_legible h none).regions_eq

end IssueMerge
