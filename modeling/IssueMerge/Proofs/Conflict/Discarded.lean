import IssueMerge.Proofs.Conflict.Layout
import IssueMerge.Proofs.Outcome

/-!
What is discarded of a conflict with both markers, and edits of it: blank lines and lines that are no
usable records, the text of ancestors, markers behind the divider, and the labels of markers. A walk
over the lines of a conflict that passes over what is discarded cannot tell a conflict from an edited
one. This is shown here of any such walk, and the scan is one; it finds the same records in a file
before and after an edit, on other lines.
-/

namespace IssueMerge

open Outcome

namespace Record

/-- Is the line refused as a record? -/
def isRefused (line : Text) : Bool :=
  match parse line.trim with
  | .error (.unusable _) => true
  | _ => false

theorem ofLine?_of_isRefused {line : Text} (h : isRefused line = true) : ofLine? line = .ok none := by
  simp only [isRefused] at h
  simp only [ofLine?]
  split at h
  · next e he => rw [he]
  · cases h

end Record

namespace Place

/-- Is a line discarded that stands at this place in a conflict? -/
def discards (place : Place) (line : Text) : Bool :=
  match place, LineKind.ofLine line with
  | head, .blank | ancestor, .blank | base, .blank => true
  | head, .content | base, .content => Record.isRefused line
  | ancestor, .content => true
  | base, .ancestor | base, .divider => true
  | _, _ => false

variable {place : Place} {line : Text}

theorem after_of_discards (h : place.discards line = true) :
    place.after (LineKind.ofLine line) = place := by
  simp only [discards] at h
  cases place <;> cases hk : LineKind.ofLine line <;> simp_all [after]

theorem inner_of_discards (h : place.discards line = true) : Inner line := by
  simp only [discards] at h
  cases place <;> cases hk : LineKind.ofLine line <;> simp_all [Inner]

end Place

theorem placeBehind_ne_outside (body : List Text) : placeBehind body ≠ .outside := by
  simp only [placeBehind]
  split
  · simp
  · split <;> simp

/-- An edit of the lines between the markers of a conflict. -/
inductive BodyEdit : List Text → List Text → Prop where
  /-- Lines that are discarded where they stand are replaced by others. There may be none of either. -/
  | discarded (before behind : List Text) {old new : List Text}
      (gone : ∀ line ∈ old, (placeBehind before).discards line = true)
      (come : ∀ line ∈ new, (placeBehind before).discards line = true) :
      BodyEdit (before ++ old ++ behind) (before ++ new ++ behind)
  | ancestor (before behind : List Text) {line line' : Text}
      (kind : LineKind.ofLine line = .ancestor) (kind' : LineKind.ofLine line' = .ancestor) :
      BodyEdit (before ++ [line] ++ behind) (before ++ [line'] ++ behind)

/-- An edit of what is discarded of a conflict with both markers. -/
inductive Block.Edit : Block → Block → Prop where
  | body {opening closing : Text} {body body' : List Text} (edit : BodyEdit body body') :
      Edit (.conflict opening body closing) (.conflict opening body' closing)
  | opening {opening opening' closing : Text} {body : List Text}
      (kind : LineKind.ofLine opening' = .opening) :
      Edit (.conflict opening body closing) (.conflict opening' body closing)
  | closing {opening closing closing' : Text} {body : List Text}
      (kind : LineKind.ofLine closing' = .closing) :
      Edit (.conflict opening body closing) (.conflict opening body closing')

/-- One file becomes the other by one edit of what is discarded of a conflict with both markers. -/
inductive Edited : List Text → List Text → Prop where
  | conflict (front back : List Text) {block block' : Block} (formed : block.Formed)
      (edit : block.Edit block') :
      Edited (front ++ block.lines ++ back) (front ++ block'.lines ++ back)

theorem BodyEdit.inner {body body' : List Text} (edit : BodyEdit body body')
    (hbody : ∀ line ∈ body, Inner line) : ∀ line ∈ body', Inner line := by
  intro line hline
  cases edit with
  | discarded before behind gone come =>
      simp only [List.mem_append] at hbody hline
      obtain (hline | hline) | hline := hline
      · exact hbody line (.inl (.inl hline))
      · exact Place.inner_of_discards (come line hline)
      · exact hbody line (.inr hline)
  | ancestor before behind kind kind' =>
      simp only [List.mem_append, List.mem_singleton] at hbody hline
      obtain (hline | rfl) | hline := hline
      · exact hbody line (.inl (.inl hline))
      · simp [Inner, kind']
      · exact hbody line (.inr hline)

/-- An edited conflict has both markers still. -/
theorem Block.Edit.formed {block block' : Block} (edit : block.Edit block')
    (formed : block.Formed) : block'.Formed := by
  obtain edit | kind | kind := edit
  · exact ⟨formed.1, edit.inner formed.2.1, formed.2.2⟩
  · exact ⟨kind, formed.2⟩
  · exact ⟨formed.1, formed.2.1, kind⟩

/-- The steps of a walk over the lines of a conflict pass over what is discarded. What is forgotten of
a state makes no difference behind it, up to the next opening marker. -/
structure Overlooks {σ ε : Type} (step : σ → Text → Except ε σ) (forget : σ → σ)
    (place : σ → Place) : Prop where
  forgets : ∀ {s s' : σ} {line : Text}, LineKind.ofLine line ≠ .opening → forget s = forget s' →
    forget <$> step s line = forget <$> step s' line
  passes : ∀ {s : σ} {line : Text}, (place s).discards line = true →
    ∃ s', step s line = .ok s' ∧ forget s' = forget s
  relabels : ∀ {s : σ} {line line' : Text}, LineKind.ofLine line' = LineKind.ofLine line →
    LineKind.ofLine line ≠ .content → LineKind.ofLine line = .opening ∨ place s ≠ .outside →
    forget <$> step s line = forget <$> step s line'
  opens : ∀ {s s' : σ} {line : Text}, LineKind.ofLine line = .opening → step s line = .ok s' →
    place s' = .head
  moves : ∀ {s s' : σ} {line : Text}, Inner line → step s line = .ok s' →
    place s' = (place s).after (LineKind.ofLine line)

namespace Overlooks

variable {σ ε : Type} {step : σ → Text → Except ε σ} {forget : σ → σ} {place : σ → Place}
  {s s' : σ} {lines body body' : List Text}

section

variable (h : Overlooks step forget place)

include h

theorem forgets_all (hlines : ∀ line ∈ lines, LineKind.ofLine line ≠ .opening)
    (hs : forget s = forget s') :
    forget <$> lines.foldlM step s = forget <$> lines.foldlM step s' := by
  induction lines generalizing s s' with
  | nil => exact congrArg Except.ok hs
  | cons line lines ih =>
      obtain ⟨hline, hlines⟩ := List.forall_mem_cons.mp hlines
      rw [List.foldlM_cons, List.foldlM_cons]
      exact map_bind_congr (h.forgets hline hs) fun _ _ heq => ih hlines heq

theorem passes_all (hlines : ∀ line ∈ lines, (place s).discards line = true) :
    ∃ s', lines.foldlM step s = .ok s' ∧ forget s' = forget s := by
  induction lines generalizing s with
  | nil => exact ⟨s, rfl, rfl⟩
  | cons line lines ih =>
      obtain ⟨hline, hlines⟩ := List.forall_mem_cons.mp hlines
      obtain ⟨s₁, hstep, hs₁⟩ := h.passes hline
      have hplace : place s₁ = place s := by
        rw [h.moves (Place.inner_of_discards hline) hstep, Place.after_of_discards hline]
      obtain ⟨s', hrun, hs'⟩ := ih (s := s₁) (by rw [hplace]; exact hlines)
      refine ⟨s', ?_, hs'.trans hs₁⟩
      rw [List.foldlM_cons, hstep]
      exact hrun

theorem moves_all (front : List Text) (hbody : ∀ line ∈ body, Inner line)
    (hs : place s = placeBehind front) (hrun : body.foldlM step s = .ok s') :
    place s' = placeBehind (front ++ body) := by
  induction body generalizing s front with
  | nil =>
      cases hrun
      rw [List.append_nil, hs]
  | cons line body ih =>
      obtain ⟨hline, hbody⟩ := List.forall_mem_cons.mp hbody
      rw [List.foldlM_cons] at hrun
      obtain ⟨s₁, hstep, hrun⟩ := bind_eq_ok.mp hrun
      have hs₁ : place s₁ = placeBehind (front ++ [line]) := by
        rw [h.moves hline hstep, hs, placeBehind_append front hline.1 hline.2]
      rw [ih _ hbody hs₁ hrun, List.append_assoc, List.singleton_append]

/-- It is enough to look at the lines that an edit replaces, at the place at which they stand. -/
theorem append_edited {before behind old new : List Text} (hbefore : ∀ line ∈ before, Inner line)
    (hbehind : ∀ line ∈ behind, Inner line) (hs : place s = .head)
    (hedit : ∀ s₁, place s₁ = placeBehind before →
      forget <$> old.foldlM step s₁ = forget <$> new.foldlM step s₁) :
    forget <$> (before ++ old ++ behind).foldlM step s =
      forget <$> (before ++ new ++ behind).foldlM step s := by
  simp only [List.append_assoc, List.foldlM_append]
  cases hrun : before.foldlM step s with
  | error e => rfl
  | ok s₁ =>
      change forget <$> (old.foldlM step s₁ >>= (behind.foldlM step ·)) =
        forget <$> (new.foldlM step s₁ >>= (behind.foldlM step ·))
      exact map_bind_congr (hedit s₁ (h.moves_all [] hbefore hs hrun))
        fun _ _ heq => h.forgets_all (fun line hline => (hbehind line hline).1) heq

/-- Lines between the markers of a conflict and the edited ones lead to states that are the same but
for what is forgotten. -/
theorem body_edited (hbody : ∀ line ∈ body, Inner line) (hs : place s = .head)
    (edit : BodyEdit body body') :
    forget <$> body.foldlM step s = forget <$> body'.foldlM step s := by
  cases edit with
  | @discarded before behind old new gone come =>
      refine h.append_edited (fun l hl => hbody l (by simp [hl]))
        (fun l hl => hbody l (by simp [hl])) hs fun s₁ hplace => ?_
      rw [← hplace] at gone come
      obtain ⟨s₂, hold, hs₂⟩ := h.passes_all gone
      obtain ⟨s₃, hnew, hs₃⟩ := h.passes_all come
      rw [hold, hnew]
      exact congrArg Except.ok (hs₂.trans hs₃.symm)
  | @ancestor before behind line line' kind kind' =>
      refine h.append_edited (fun l hl => hbody l (by simp [hl]))
        (fun l hl => hbody l (by simp [hl])) hs fun s₁ hplace => ?_
      have hinside : place s₁ ≠ .outside := by
        rw [hplace]
        exact placeBehind_ne_outside before
      simp only [List.foldlM_cons, List.foldlM_nil]
      exact map_bind_congr (h.relabels (kind'.trans kind.symm) (by simp [kind]) (.inr hinside))
        fun _ _ heq => congrArg Except.ok heq

theorem block_edited {block block' : Block} (formed : block.Formed) (edit : block.Edit block')
    (s : σ) : forget <$> block.lines.foldlM step s = forget <$> block'.lines.foldlM step s := by
  cases edit with
  | @body opening closing body body' edit =>
      obtain ⟨hopen, hbody, hclose⟩ := formed
      simp only [Block.lines, List.cons_append, List.foldlM_cons, List.foldlM_append]
      cases hstep : step s opening with
      | error e => rfl
      | ok s₁ =>
          change forget <$> (body.foldlM step s₁ >>= ([closing].foldlM step ·)) =
            forget <$> (body'.foldlM step s₁ >>= ([closing].foldlM step ·))
          exact map_bind_congr (h.body_edited hbody (h.opens hopen hstep) edit)
            fun _ _ heq => h.forgets_all (by simp [hclose]) heq
  | @opening opening opening' closing body kind =>
      obtain ⟨hopen, hbody, hclose⟩ := formed
      simp only [Block.lines, List.cons_append, List.foldlM_cons]
      refine map_bind_congr (h.relabels (kind.trans hopen.symm) (by simp [hopen]) (.inl hopen))
        fun _ _ heq => h.forgets_all (fun line hline => ?_) heq
      cases List.mem_append.mp hline with
      | inl hline => exact (hbody line hline).1
      | inr hline => simp [List.mem_singleton.mp hline, hclose]
  | @closing opening closing closing' body kind =>
      obtain ⟨hopen, hbody, hclose⟩ := formed
      simp only [Block.lines, List.cons_append, List.foldlM_cons, List.foldlM_append,
        List.foldlM_nil]
      cases hstep : step s opening with
      | error e => rfl
      | ok s₁ =>
          cases hrun : body.foldlM step s₁ with
          | error e => simp only [bind, Except.bind, hrun]
          | ok s₂ =>
              have hplace : place s₂ = placeBehind body :=
                h.moves_all [] hbody (h.opens hopen hstep) hrun
              simp only [bind, Except.bind, hrun]
              refine map_bind_congr (h.relabels (kind.trans hclose.symm) (by simp [hclose])
                (.inr ?_)) fun _ _ heq => congrArg Except.ok heq
              rw [hplace]
              exact placeBehind_ne_outside body

end

end Overlooks

/-- The region without the place that it has in a file. -/
def Region.unnumbered (r : Region) : Region :=
  { r with openLine := 0, closeLine := 0 }

@[simp]
theorem Region.unnumbered_unnumbered (r : Region) : r.unnumbered.unnumbered = r.unnumbered := rfl

theorem Region.unnumbered_add (r : Region) (place : Place) (record : Record) :
    (r.unnumbered.add place record).unnumbered = (r.add place record).unnumbered := by
  cases place <;> rfl

namespace Scan

/-- The scan without line numbers and without the warnings, which consist of them. -/
def unnumbered (s : Scan) : Scan :=
  { s with
    pending := s.pending.map Region.unnumbered
    regions := s.regions.map Region.unnumbered
    warnings := [] }

/-- Where in a conflict the next line stands, if one is open. -/
def placeInside (s : Scan) : Place :=
  if s.pending.isSome then s.place else .outside

variable {s s' : Scan} {line : Text}

@[simp]
theorem place_unnumbered (s : Scan) : s.unnumbered.place = s.place := rfl

@[simp]
theorem pending_unnumbered (s : Scan) : s.unnumbered.pending = s.pending.map Region.unnumbered := rfl

@[simp]
theorem unnumbered_unnumbered (s : Scan) : s.unnumbered.unnumbered = s.unnumbered := by
  simp [unnumbered, Function.comp_def, Region.unnumbered_unnumbered]

theorem addContent_unnumbered (s : Scan) (line : Text) :
    unnumbered <$> s.unnumbered.addContent line = unnumbered <$> s.addContent line := by
  have hstays : s.unnumbered.place = s.place := rfl
  simp only [addContent, pending_unnumbered]
  cases s.pending with
  | none => exact congrArg Except.ok s.unnumbered_unnumbered
  | some region =>
      simp only [Option.map_some]
      by_cases hplace : s.place = .ancestor
      · rw [if_pos (hstays.trans hplace), if_pos hplace]
        exact congrArg Except.ok s.unnumbered_unnumbered
      · rw [if_neg (hstays ▸ hplace), if_neg hplace]
        cases Record.ofLine? line with
        | error e => rfl
        | ok found =>
            cases found with
            | none => exact congrArg Except.ok s.unnumbered_unnumbered
            | some record =>
                refine congrArg Except.ok ?_
                simp [unnumbered, Region.unnumbered_add, Function.comp_def,
                  Region.unnumbered_unnumbered]

theorem step_unnumbered (s : Scan) (number number' : Nat) (line : Text) :
    unnumbered <$> s.unnumbered.step number line = unnumbered <$> s.step number' line := by
  cases hk : LineKind.ofLine line with
  | content =>
      simp only [step, hk]
      exact s.addContent_unnumbered line
  | blank | opening | ancestor | divider | closing =>
      simp only [step, hk, place_unnumbered, pending_unnumbered]
      cases hpending : s.pending <;> refine congrArg Except.ok ?_ <;>
        simp [unnumbered, hpending, Function.comp_def, Region.unnumbered]

theorem step_of_discards (number : Nat) (h : s.placeInside.discards line = true) :
    s.step number line = .ok s := by
  have hstay := Place.after_of_discards h
  obtain ⟨place, pending, regions, warnings⟩ := s
  cases pending with
  | none => simp [placeInside, Place.discards] at h
  | some region =>
      simp only [placeInside, Option.isSome_some, ↓reduceIte] at h hstay
      cases hk : LineKind.ofLine line with
      | opening => exact absurd hk (Place.inner_of_discards h).1
      | closing => exact absurd hk (Place.inner_of_discards h).2
      | blank | ancestor | divider =>
          rw [hk] at hstay
          simp only [step, hk, hstay]
      | content =>
          cases place with
          | outside => cases h
          | ancestor => simp [step, hk, addContent]
          | head | base =>
              simp only [Place.discards, hk] at h
              simp [step, hk, addContent, Record.ofLine?_of_isRefused h, bind, Except.bind]

theorem placeInside_of_addContent (h : s.addContent line = .ok s') :
    s'.placeInside = s.placeInside := by
  simp only [addContent] at h
  split at h
  · cases h
    rfl
  · next region hpending =>
    split at h
    · cases h
      rfl
    · obtain ⟨found, _, h⟩ := bind_eq_ok.mp h
      cases found <;> cases h <;> simp [placeInside, hpending]

theorem placeInside_of_step {number : Nat} (hline : Inner line) (h : s.step number line = .ok s') :
    s'.placeInside = s.placeInside.after (LineKind.ofLine line) := by
  cases hk : LineKind.ofLine line with
  | opening => exact absurd hk hline.1
  | closing => exact absurd hk hline.2
  | content =>
      simp only [step, hk] at h
      rw [placeInside_of_addContent h]
      cases s.placeInside <;> rfl
  | blank | ancestor | divider =>
      simp only [step, hk] at h
      cases hpending : s.pending <;> rw [hpending] at h <;> cases h
      · simp [placeInside, hpending, Place.after]
      · simp [placeInside, hpending]

/-- The scan passes over what is discarded, but for the numbers of lines. -/
theorem overlooks : Overlooks (fun (s : Scan) line => s.step 0 line) unnumbered placeInside where
  forgets {s s' line} _ hs := by
    rw [← s.step_unnumbered 0 0, hs, s'.step_unnumbered 0 0]
  passes hdiscards := ⟨_, step_of_discards 0 hdiscards, rfl⟩
  relabels {s line line'} hkind hcontent _ := by
    cases hk : LineKind.ofLine line with
    | content => exact absurd hk hcontent
    | blank | ancestor | divider => simp only [step, hkind, hk]
    | opening | closing =>
        simp only [step, hkind, hk]
        cases s.pending <;> rfl
  opens {s s' line} hk hstep := by
    have hplace : s.place.after .opening = .head := by cases s.place <;> rfl
    simp only [step, hk, hplace] at hstep
    cases hpending : s.pending <;> simp only [hpending, Except.ok.injEq] at hstep <;>
      simp [← hstep, placeInside]
  moves hline hstep := placeInside_of_step hline hstep

theorem run_unnumbered (hs : s.unnumbered = s'.unnumbered) (number : Nat) (lines : List Text) :
    unnumbered <$> s.run number lines =
      unnumbered <$> lines.foldlM (fun s line => s.step 0 line) s' := by
  induction lines generalizing s s' number with
  | nil => exact congrArg Except.ok hs
  | cons line lines ih =>
      rw [run, List.foldlM_cons]
      refine map_bind_congr ?_ fun _ _ heq => ih heq (number + 1)
      rw [← s.step_unnumbered 0 number, hs, s'.step_unnumbered 0 0]

theorem run_edited {lines lines' : List Text} (h : Edited lines lines') (s : Scan) (number : Nat) :
    unnumbered <$> s.run number lines = unnumbered <$> s.run number lines' := by
  obtain @⟨front, back, block, block', formed, edit⟩ := h
  have hforget : ∀ {s s' : Scan} (lines : List Text), s.unnumbered = s'.unnumbered →
      unnumbered <$> lines.foldlM (fun s line => s.step 0 line) s =
        unnumbered <$> lines.foldlM (fun s line => s.step 0 line) s' :=
    fun lines heq => (run_unnumbered rfl 0 lines).symm.trans (run_unnumbered heq 0 lines)
  rw [run_unnumbered rfl, run_unnumbered rfl]
  simp only [List.append_assoc, List.foldlM_append]
  refine map_bind_congr rfl fun s₁ s₂ heq => map_bind_congr ?_ fun _ _ heq => hforget back heq
  exact (hforget block.lines heq).trans (overlooks.block_edited formed edit s₂)

end Scan

/-- Two scans that differ in the numbers of lines only find the same records. -/
theorem Region.unnumbered_of_run {lines lines' : List Text}
    (h : Scan.unnumbered <$> Scan.run {} 1 lines = Scan.unnumbered <$> Scan.run {} 1 lines') :
    List.map Region.unnumbered <$> Region.ofLines lines =
      List.map Region.unnumbered <$> Region.ofLines lines' := by
  have hrun := congrArg (Scan.regions <$> ·) h
  simp only [← comp_map] at hrun
  simp only [Region.ofLines, Scan.ofLines, ← comp_map]
  exact hrun

/-- The scan finds the same records in a file before and after an edit. -/
theorem Region.unnumbered_ofLines {lines lines' : List Text} (h : Edited lines lines') :
    List.map Region.unnumbered <$> Region.ofLines lines =
      List.map Region.unnumbered <$> Region.ofLines lines' :=
  Region.unnumbered_of_run (Scan.run_edited h {} 1)

end IssueMerge
