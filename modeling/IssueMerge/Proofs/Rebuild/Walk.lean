import IssueMerge.Proofs.Rebuild.Kept

/-!
One step of the walk that rebuilds a file. The walk stands in one of the places of the layout and
holds the records of the conflict that is open there; a step that ends a stretch emits the lines of it
that stay.
-/

namespace IssueMerge

open Outcome

def entriesOn (lines : List Text) : List Entry :=
  lines.filterMap fun line => (Record.on? line).map (Entry.mk line)

theorem on?_of_mem_entriesOn {lines : List Text} {e : Entry} (h : e ∈ entriesOn lines) :
    Record.on? e.line = some e.record := by
  obtain ⟨line, _, he⟩ := List.mem_filterMap.mp h
  obtain ⟨r, hr, rfl⟩ := Option.map_eq_some_iff.mp he
  exact hr

theorem map_line_entriesOn (lines : List Text) :
    (entriesOn lines).map Entry.line = recordLines lines := by
  induction lines with
  | nil => rfl
  | cons line lines ih =>
      simp only [entriesOn, recordLines] at ih ⊢
      cases hon : Record.on? line <;> simp [hon, ih]

theorem map_id_entriesOn (lines : List Text) :
    (entriesOn lines).map (fun e => e.record.id) =
      (lines.filterMap Record.on?).map Record.id := by
  induction lines with
  | nil => rfl
  | cons line lines ih =>
      simp only [entriesOn] at ih ⊢
      cases hon : Record.on? line <;> simp [hon, ih]

namespace Rebuild

variable {s : Rebuild} {line opening : Text} {body : List Text}

theorem emit_eq (s : Rebuild) (line : Text) (changed : Option Record) : ∃ n,
    s.emit line changed =
      { s with output := s.output ++ [Origin.lineFor line changed], recordsRewritten := n } := by
  cases changed <;> exact ⟨_, rfl⟩

section

variable (plan : ResolutionPlan)

theorem lineFor_of_mem {lines : List Text} {e : Entry} (h : e ∈ entriesOn lines)
    (origin : Origin) : Origin.lineFor e.line (origin.change? plan e.record) =
      origin.emit plan e.line := by
  rw [Origin.emit, on?_of_mem_entriesOn h, Option.bind_some]

theorem foldl_emitHead (s : Rebuild) (es : List Entry) : ∃ n,
    es.foldl (emitHead plan) s =
      { s with
        output := s.output ++
          es.map fun e => Origin.lineFor e.line (Origin.head.change? plan e.record)
        recordsRewritten := n } := by
  induction es generalizing s with
  | nil => exact ⟨s.recordsRewritten, by simp⟩
  | cons e es ih =>
      obtain ⟨m, hm⟩ := emit_eq s e.line (Origin.head.change? plan e.record)
      obtain ⟨n, hn⟩ := ih (s.emit e.line (Origin.head.change? plan e.record))
      refine ⟨n, ?_⟩
      rw [List.foldl_cons]
      refine hn.trans ?_
      rw [hm]
      simp

theorem emitBase_of_map_eq (s : Rebuild) (es : List Entry) {used rest : List Resolution}
    (htodo : s.todo = used ++ rest)
    (hids : used.map Resolution.oldId = es.map fun e => e.record.id) : ∃ n,
    emitBase plan s es = .ok { s with
      todo := rest
      output := s.output ++ List.zipWith
        (fun r e => Origin.lineFor e.line ((Origin.base r).change? plan e.record)) used es
      recordsRewritten := n } := by
  induction es generalizing s used with
  | nil =>
      have hnil : used = [] := List.map_eq_nil_iff.mp hids
      subst hnil
      rw [List.nil_append] at htodo
      exact ⟨s.recordsRewritten, by simp [emitBase, ← htodo]⟩
  | cons e es ih =>
      cases used with
      | nil => cases hids
      | cons r used =>
          obtain ⟨hid, hids⟩ := List.cons.inj hids
          have htodo' : s.todo = r :: (used ++ rest) := htodo
          obtain ⟨m, hm⟩ := emit_eq { s with todo := used ++ rest } e.line
            ((Origin.base r).change? plan e.record)
          obtain ⟨n, hn⟩ := ih ({ s with todo := used ++ rest }.emit e.line
            ((Origin.base r).change? plan e.record)) (by rw [hm]) hids
          refine ⟨n, ?_⟩
          simp only [emitBase, htodo', hid, ↓reduceIte]
          refine hn.trans ?_
          rw [hm]
          simp

theorem emitBase_of_not_prefix (s : Rebuild) (es : List Entry)
    (h : ¬ (es.map fun e => e.record.id) <+: s.todo.map Resolution.oldId) :
    ∃ expected found, emitBase plan s es = .error (.mismatch expected found) := by
  induction es generalizing s with
  | nil => exact absurd List.nil_prefix h
  | cons e es ih =>
      cases htodo : s.todo with
      | nil =>
          simp only [emitBase, htodo]
          exact ⟨_, _, rfl⟩
      | cons r todo =>
          by_cases hid : r.oldId = e.record.id
          · simp only [emitBase, htodo, hid, ↓reduceIte]
            obtain ⟨m, hm⟩ := emit_eq { s with todo } e.line (resolved? plan r e.record)
            refine ih _ ?_
            rw [hm]
            intro hprefix
            rw [htodo, List.map_cons, List.map_cons, hid] at h
            exact h (List.prefix_cons_inj _ |>.mpr hprefix)
          · simp only [emitBase, htodo, hid, ↓reduceIte]
            exact ⟨_, _, rfl⟩

end

/-- The walk is at a place where these lines are open. -/
def Stands (s : Rebuild) : Layout.Pending → Prop
  | none => s.place = .outside ∧ s.pending = none
  | some (opening, body) => s.place = placeBehind body ∧ s.pending = some {
      lines := opening :: body
      head := entriesOn (headPart body)
      base := entriesOn (basePart body) }

variable {plan : ResolutionPlan}

theorem map_lineFor_entriesOn (lines : List Text) :
    ((entriesOn lines).map fun e => Origin.lineFor e.line (Origin.head.change? plan e.record)) =
      ((recordLines lines).map (Origin.head, ·)).map fun p => p.1.emit plan p.2 := by
  rw [← map_line_entriesOn, List.map_map, List.map_map]
  exact List.map_congr_left fun e he => lineFor_of_mem plan he Origin.head

theorem zipWith_lineFor_entriesOn (used : List Resolution) (lines : List Text) :
    List.zipWith (fun r e => Origin.lineFor e.line ((Origin.base r).change? plan e.record)) used
        (entriesOn lines) =
      (List.zipWith (fun r line => (Origin.base r, line)) used (recordLines lines)).map
        fun p => p.1.emit plan p.2 := by
  induction lines generalizing used with
  | nil => simp [entriesOn, recordLines]
  | cons line lines ih =>
      cases hon : Record.on? line with
      | none =>
          simp only [entriesOn, recordLines] at ih ⊢
          simp [hon, ih]
      | some r =>
          cases used with
          | nil => simp
          | cons res used =>
              simp only [entriesOn, recordLines] at ih ⊢
              simp [hon, ih, Origin.emit]

/-- What a walk did: it used up some entries and emitted what the layout says. -/
structure Emits (plan : ResolutionPlan) (s s' : Rebuild) (used : List Resolution)
    (layout : Layout) : Prop where
  todo : s.todo = used ++ s'.todo
  output : s'.output = s.output ++ layout.emitted plan used
  regions : s'.regionsResolved = s.regionsResolved + layout.countP Block.isConflict

theorem step_closing (h : s.Stands (some (opening, body)))
    (hk : LineKind.ofLine line = .closing) {used rest : List Resolution}
    (htodo : s.todo = used ++ rest)
    (hids : used.map Resolution.oldId = (Block.conflict opening body line).baseIds) :
    ∃ s', step plan s line = .ok s' ∧ s'.Stands none ∧
      s.Emits plan s' used [.conflict opening body line] := by
  have hplace : s.place.after .closing = .outside := by cases s.place <;> rfl
  obtain ⟨m, hm⟩ := foldl_emitHead plan { s with place := .outside, pending := none }
    (entriesOn (headPart body))
  have htodo' : ((entriesOn (headPart body)).foldl (emitHead plan)
      { s with place := .outside, pending := none }).todo = used ++ rest := by
    rw [hm]
    exact htodo
  obtain ⟨n, hn⟩ := emitBase_of_map_eq plan _ (entriesOn (basePart body)) htodo'
    (by rw [map_id_entriesOn]; exact hids)
  have hlength : used.length = (Block.conflict opening body line).baseIds.length := by
    rw [← hids, List.length_map]
  rw [hm] at hn
  simp only [step, hk, h.2, hplace, close, hm, hn, bind, Except.bind]
  refine ⟨_, rfl, ⟨rfl, rfl⟩, htodo, ?_, rfl⟩
  simp only [map_lineFor_entriesOn, zipWith_lineFor_entriesOn, Layout.emitted, Layout.kept,
    Block.kept, List.append_nil, List.map_append, List.append_assoc, ← hlength, List.take_length]

theorem step_closing_error (h : s.Stands (some (opening, body)))
    (hk : LineKind.ofLine line = .closing)
    (hids : ¬ (Block.conflict opening body line).baseIds <+: s.todo.map Resolution.oldId) :
    ∃ expected found, step plan s line = .error (.mismatch expected found) := by
  have hplace : s.place.after .closing = .outside := by cases s.place <;> rfl
  obtain ⟨m, hm⟩ := foldl_emitHead plan { s with place := .outside, pending := none }
    (entriesOn (headPart body))
  have hids' : ¬ (entriesOn (basePart body)).map (fun e => e.record.id) <+:
      ((entriesOn (headPart body)).foldl (emitHead plan)
        { s with place := .outside, pending := none }).todo.map Resolution.oldId := by
    rw [hm, map_id_entriesOn]
    exact hids
  obtain ⟨expected, found, herror⟩ := emitBase_of_not_prefix plan _ _ hids'
  simp only [step, hk, h.2, hplace, close, herror, bind, Except.bind]
  exact ⟨expected, found, rfl⟩

theorem step_outside (h : s.Stands none) (hopen : LineKind.ofLine line ≠ .opening)
    (hlegible : Legible line) :
    ∃ s', step plan s line = .ok s' ∧ s'.Stands none ∧ s.Emits plan s' [] [.single line] := by
  have hkeep : Record.on? line = none →
      (s.keepLine line).Stands none ∧ s.Emits plan (s.keepLine line) [] [.single line] := by
    intro hon
    refine ⟨h, rfl, ?_, rfl⟩
    change s.output ++ [line] = s.output ++ [Origin.outside.emit plan line]
    rw [Origin.emit_of_none plan _ hon]
  by_cases hk : LineKind.ofLine line = .content
  · simp only [step, hk, h.2, outside, hlegible.ofLine?]
    cases hon : Record.on? line with
    | none => exact ⟨_, rfl, hkeep hon⟩
    | some r =>
        obtain ⟨n, hn⟩ := emit_eq s line (r.rewritten? plan.table)
        refine ⟨_, rfl, ?_⟩
        rw [hn]
        refine ⟨h, rfl, ?_, rfl⟩
        change _ = s.output ++ [Origin.outside.emit plan line]
        rw [Origin.emit, hon]
        rfl
  · have hstep : step plan s line = .ok (s.keepLine line) := by
      simp only [step, h.2]
    exact ⟨_, hstep, hkeep (Record.on?_of_kind hk)⟩

theorem step_opening (plan : ResolutionPlan) (pending : Layout.Pending) (h : s.Stands pending)
    (hk : LineKind.ofLine line = .opening) :
    ∃ s', step plan s line = .ok s' ∧ s'.Stands (some (line, [])) ∧
      s.Emits plan s' [] (Layout.leftOpen pending) := by
  have hplace : s.place.after .opening = .head := by cases s.place <;> rfl
  cases pending with
  | none =>
      simp only [step, hk, h.2, hplace]
      exact ⟨_, rfl, ⟨rfl, rfl⟩, rfl, (List.append_nil _).symm, rfl⟩
  | some p =>
      simp only [step, hk, h.2, hplace]
      refine ⟨_, rfl, ⟨rfl, rfl⟩, rfl, ?_, rfl⟩
      simp only [flush, Layout.leftOpen, Layout.emitted_unclosed]

theorem step_inside (h : s.Stands (some (opening, body)))
    (hopen : LineKind.ofLine line ≠ .opening) (hclose : LineKind.ofLine line ≠ .closing)
    (hlegible : placeBehind body ≠ .ancestor → Legible line) :
    ∃ s', step plan s line = .ok s' ∧ s'.Stands (some (opening, body ++ [line])) ∧
      s.Emits plan s' [] [] := by
  obtain ⟨hplace, hpending⟩ := h
  have hbehind := placeBehind_append body hopen hclose
  have hnone : ∀ l, LineKind.ofLine l ≠ .content →
      (Record.on? l).map (Entry.mk l) = none := by
    intro l hl
    rw [Record.on?_of_kind hl]
    rfl
  have hhead := filterMap_headPart_append body line hnone
  have hbase := filterMap_basePart_append body line
    (g := fun l => (Record.on? l).map (Entry.mk l))
  rw [← entriesOn, ← entriesOn] at hhead hbase
  by_cases hk : LineKind.ofLine line = .content
  · have hstay : placeBehind (body ++ [line]) = placeBehind body := by
      rw [hbehind, hk]
      cases placeBehind body <;> rfl
    simp only [step, hk, hpending, addContent]
    split
    · next hancestor =>
      rw [hplace] at hancestor
      refine ⟨_, rfl, ⟨by rw [hstay]; exact hplace, ?_⟩, rfl, (List.append_nil _).symm, rfl⟩
      simp only [hhead, hbase, hancestor, reduceCtorEq, ↓reduceIte, List.append_nil,
        List.cons_append]
    · next hancestor =>
      rw [hplace] at hancestor
      simp only [(hlegible hancestor).ofLine?, bind, Except.bind]
      cases hon : Record.on? line with
      | none =>
          refine ⟨_, rfl, ⟨by rw [hstay]; exact hplace, ?_⟩, rfl, (List.append_nil _).symm, rfl⟩
          simp only [hhead, hbase, hon, Option.map_none, Option.toList_none, ite_self,
            List.append_nil, List.cons_append]
      | some r =>
          by_cases hh : placeBehind body = .head
          · simp only [hplace, hh, ↓reduceIte]
            refine ⟨_, rfl, ⟨by rw [hstay, hh], ?_⟩, rfl, (List.append_nil _).symm, rfl⟩
            simp only [hhead, hbase, hon, hh, Option.map_some, Option.toList_some, reduceCtorEq,
              ↓reduceIte, List.append_nil, List.cons_append]
          · have hb := placeBehind_of_ne hh hancestor
            simp only [hplace, hb, reduceCtorEq, ↓reduceIte]
            refine ⟨_, rfl, ⟨by rw [hstay, hb], ?_⟩, rfl, (List.append_nil _).symm, rfl⟩
            simp only [hhead, hbase, hon, hb, Option.map_some, Option.toList_some, reduceCtorEq,
              ↓reduceIte, List.append_nil, List.cons_append]
  · have hon := Record.on?_of_kind hk
    have hstep : step plan s line = .ok { s with
        place := s.place.after (LineKind.ofLine line)
        pending := some {
          lines := opening :: (body ++ [line])
          head := entriesOn (headPart body)
          base := entriesOn (basePart body) } } := by
      simp only [step, hpending]
      cases hkind : LineKind.ofLine line with
      | opening => exact absurd hkind hopen
      | closing => exact absurd hkind hclose
      | content => exact absurd hkind hk
      | blank | ancestor | divider => rfl
    refine ⟨_, hstep, ⟨?_, ?_⟩, rfl, (List.append_nil _).symm, rfl⟩
    · rw [hbehind, ← hplace]
    · simp only [hhead, hbase, hon, Option.map_none, Option.toList_none, ite_self, List.append_nil]

end Rebuild

end IssueMerge
