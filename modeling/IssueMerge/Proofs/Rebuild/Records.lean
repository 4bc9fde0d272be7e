import IssueMerge.Proofs.Rebuild.Emitted
import Mathlib.Data.List.Forall2

/-!
The records of a file that is rebuilt. All but those in the text of ancestors stay, in order: those
outside conflicts, those of the head sides, and those of the base sides, each of which comes with its
resolution.
-/

namespace IssueMerge

/-- The records among lines that stay, with the places they come from. -/
def recordsKept (kept : List (Origin × Text)) : List (Origin × Record) :=
  kept.filterMap fun p => (Record.on? p.2).map (Prod.mk p.1)

/-- What is found again of each record where it is emitted is found in the new lines, in order. -/
theorem forall₂_recordsKept {plan : ResolutionPlan} {kept : List (Origin × Text)}
    {R : Origin × Record → Record → Prop}
    (hemit : ∀ p ∈ kept, ∀ r, Record.on? p.2 = some r →
      ∃ r', Record.on? (p.1.emit plan p.2) = some r' ∧ R (p.1, r) r') :
    List.Forall₂ R (recordsKept kept)
      ((kept.map fun p => p.1.emit plan p.2).filterMap Record.on?) := by
  induction kept with
  | nil => exact .nil
  | cons p kept ih =>
      obtain ⟨hp, hkept⟩ := List.forall_mem_cons.mp hemit
      have hrest := ih hkept
      simp only [recordsKept, List.map_cons, List.filterMap_cons] at hrest ⊢
      cases hon : Record.on? p.2 with
      | none =>
          rw [Origin.emit_of_none plan p.1 hon, hon]
          exact hrest
      | some r =>
          obtain ⟨r', hon', hr'⟩ := hp r hon
          rw [hon']
          exact .cons hr' hrest

namespace Origin

def isHead : Origin → Bool
  | head => true
  | outside | unclosed | base _ => false

/-- The resolution that a record of the base side comes with. -/
def resolution? : Origin → Option Resolution
  | base r => some r
  | outside | unclosed | head => none

end Origin

theorem recordsKept_append (front back : List (Origin × Text)) :
    recordsKept (front ++ back) = recordsKept front ++ recordsKept back :=
  List.filterMap_append

theorem recordsKept_map (origin : Origin) (lines : List Text) :
    recordsKept (lines.map (origin, ·)) = (lines.filterMap Record.on?).map (origin, ·) := by
  rw [recordsKept, List.filterMap_map, List.map_filterMap]
  rfl

theorem filterMap_recordLines (lines : List Text) :
    (recordLines lines).filterMap Record.on? = lines.filterMap Record.on? := by
  rw [recordLines, List.filterMap_filter]
  congr 1
  funext line
  cases Record.on? line <;> rfl

theorem recordsKept_zipWith (used : List Resolution) (lines : List Text) :
    recordsKept (List.zipWith (fun r line => (Origin.base r, line)) used (recordLines lines)) =
      (used.zip (lines.filterMap Record.on?)).map fun q => (Origin.base q.1, q.2) := by
  induction lines generalizing used with
  | nil => simp [recordLines, recordsKept]
  | cons line lines ih =>
      simp only [recordLines] at ih ⊢
      cases hon : Record.on? line with
      | none => simp [hon, ih]
      | some record =>
          cases used with
          | nil => simp [recordsKept]
          | cons r used =>
              have hrest := ih used
              simp only [recordsKept] at hrest ⊢
              simp [hon, hrest]

namespace Block

theorem recordsKept_single (line : Text) (used : List Resolution) :
    recordsKept ((single line).kept used) = ([line].filterMap Record.on?).map (.outside, ·) :=
  recordsKept_map .outside [line]

theorem recordsKept_unclosed (opening : Text) (body : List Text) (used : List Resolution) :
    recordsKept ((unclosed opening body).kept used) =
      ((opening :: body).filterMap Record.on?).map (.unclosed, ·) :=
  recordsKept_map .unclosed (opening :: body)

theorem recordsKept_conflict (opening closing : Text) (body : List Text) (used : List Resolution) :
    recordsKept ((conflict opening body closing).kept used) =
      ((headPart body).filterMap Record.on?).map (.head, ·) ++
        (used.zip ((basePart body).filterMap Record.on?)).map fun q => (.base q.1, q.2) := by
  rw [kept, recordsKept_append, recordsKept_map, filterMap_recordLines, recordsKept_zipWith]

end Block

theorem filterMap_dividerPart (body : List Text) :
    (dividerPart body).filterMap Record.on? = (basePart body).filterMap Record.on? := by
  rw [basePart]
  cases hpart : dividerPart body with
  | nil => rfl
  | cons line rest =>
      have hstart : startsBase line = true := by
        have hhead := List.head?_dropWhile_not (fun line => !startsBase line) body
        rw [show body.dropWhile (!startsBase ·) = line :: rest from hpart] at hhead
        simpa using hhead
      have hdivider : LineKind.ofLine line = .divider := of_decide_eq_true hstart
      rw [List.filterMap_cons, Record.on?_of_kind (by rw [hdivider]; decide)]
      rfl

theorem Block.filterMap_withoutAncestors {opening closing : Text} (body : List Text)
    (h : (Block.conflict opening body closing).Marked) :
    (Block.conflict opening body closing).withoutAncestors.filterMap Record.on? =
      (headPart body).filterMap Record.on? ++ (basePart body).filterMap Record.on? := by
  have hopening : Record.on? opening = none := Record.on?_of_kind (by rw [h.1]; decide)
  have hclosing : Record.on? closing = none := Record.on?_of_kind (by rw [h.2]; decide)
  simp only [Block.withoutAncestors, List.filterMap_append, List.filterMap_cons, List.cons_append,
    hopening, hclosing, filterMap_dividerPart, List.filterMap_nil, List.append_nil]

theorem newId_zip {used : List Resolution} {records : List Record}
    (h : used.map Resolution.oldId = records.map Record.id)
    (hkeep : ∀ r ∈ used, r.isRemap = false → r.newId = r.oldId) :
    (used.zip records).map (fun q => (Origin.base q.1).newId?.getD q.2.id) =
      used.map Resolution.newId := by
  induction used generalizing records with
  | nil => rfl
  | cons r used ih =>
      cases records with
      | nil => cases h
      | cons record records =>
          obtain ⟨hid, hrest⟩ := List.cons.inj h
          obtain ⟨hr, hused⟩ := List.forall_mem_cons.mp hkeep
          rw [List.zip_cons_cons, List.map_cons, ih hrest hused, List.map_cons]
          congr 1
          simp only [Origin.newId?]
          cases hremap : r.isRemap with
          | true => rfl
          | false => exact (hid.symm.trans (hr hremap).symm)

theorem oldId_of_mem_zip {used : List Resolution} {records : List Record}
    (h : used.map Resolution.oldId = records.map Record.id) {q : Resolution × Record}
    (hq : q ∈ used.zip records) : q.1.oldId = q.2.id := by
  induction used generalizing records with
  | nil => cases hq
  | cons r used ih =>
      cases records with
      | nil => cases h
      | cons record records =>
          obtain ⟨hid, hrest⟩ := List.cons.inj h
          cases List.mem_cons.mp hq with
          | inl heq =>
              subst heq
              exact hid
          | inr hq => exact ih hrest hq

theorem Block.count_recordsKept {block : Block} {used : List Resolution}
    (h : used.map Resolution.oldId = block.baseIds)
    (hkeep : ∀ r ∈ used, r.isRemap = false → r.newId = r.oldId) (number : Nat) (x : Text) :
    ((recordsKept (block.kept used)).map fun p => p.1.newId?.getD p.2.id).count x =
      ((block.outside.filterMap Record.on?).map Record.id).count x +
        ((block.region? number).toList.flatMap Region.headIds).count x +
          (used.map Resolution.newId).count x := by
  cases block with
  | single line =>
      have hnil : used = [] := List.map_eq_nil_iff.mp h
      rw [Block.recordsKept_single, List.map_map, hnil]
      rfl
  | unclosed opening body =>
      have hnil : used = [] := List.map_eq_nil_iff.mp h
      rw [Block.recordsKept_unclosed, List.map_map, hnil]
      rfl
  | conflict opening body closing =>
      have hbases := newId_zip h hkeep
      rw [Block.recordsKept_conflict, List.map_append, List.count_append, List.map_map,
        List.map_map, ← hbases]
      simp [Block.outside, Block.region?, Region.headIds, Origin.newId?, Function.comp_def]

namespace Layout

variable {used : List Resolution} {layout : Layout}

theorem recordsKept_cons (used : List Resolution) (block : Block) (rest : Layout) :
    recordsKept (kept used (block :: rest)) =
      recordsKept (block.kept (used.take block.baseIds.length)) ++
        recordsKept (kept (used.drop block.baseIds.length) rest) :=
  recordsKept_append _ _

theorem split_used {block : Block} {rest : Layout}
    (h : used.map Resolution.oldId = baseIds (block :: rest)) :
    (used.take block.baseIds.length).map Resolution.oldId = block.baseIds ∧
      (used.drop block.baseIds.length).map Resolution.oldId = baseIds rest := by
  have happend : used.map Resolution.oldId = block.baseIds ++ baseIds rest := h
  rw [List.map_take, List.map_drop, happend]
  exact ⟨List.take_left, List.drop_left⟩

theorem length_of_map_oldId {opening closing : Text} {body : List Text}
    (h : used.map Resolution.oldId = (Block.conflict opening body closing).baseIds) :
    used.length = ((basePart body).filterMap Record.on?).length := by
  have hlength := congrArg List.length h
  simpa only [Block.baseIds, List.length_map] using hlength

/-- All records but those in the text of ancestors stay, in order. -/
theorem snd_recordsKept (h : used.map Resolution.oldId = layout.baseIds)
    (hmarked : ∀ block ∈ layout, block.Marked) :
    (recordsKept (kept used layout)).map Prod.snd =
      (layout.flatMap Block.withoutAncestors).filterMap Record.on? := by
  induction layout generalizing used with
  | nil => rfl
  | cons block rest ih =>
      obtain ⟨hfirst, hrest⟩ := split_used h
      obtain ⟨hblock, hblocks⟩ := List.forall_mem_cons.mp hmarked
      rw [recordsKept_cons, List.map_append, ih hrest hblocks, List.flatMap_cons,
        List.filterMap_append]
      congr 1
      cases block with
      | single line =>
          rw [Block.recordsKept_single, List.map_map]
          exact List.map_id' _
      | unclosed opening body =>
          rw [Block.recordsKept_unclosed, List.map_map]
          exact List.map_id' _
      | conflict opening body closing =>
          have hlength := length_of_map_oldId hfirst
          rw [Block.recordsKept_conflict, Block.filterMap_withoutAncestors body hblock,
            List.map_append, List.map_map, List.map_map]
          congr 1
          · exact List.map_id' _
          · exact List.map_snd_zip (Nat.le_of_eq hlength.symm)

theorem heads_recordsKept (h : used.map Resolution.oldId = layout.baseIds) (number : Nat) :
    ((recordsKept (kept used layout)).filter (·.1.isHead)).map Prod.snd =
      (regionsFrom number layout).flatMap Region.head := by
  induction layout generalizing used number with
  | nil => rfl
  | cons block rest ih =>
      obtain ⟨_, hrest⟩ := split_used h
      rw [recordsKept_cons, List.filter_append, List.map_append, ih hrest
        (number + block.lines.length), regionsFrom, List.flatMap_append]
      congr 1
      cases block with
      | single line =>
          rw [Block.recordsKept_single, List.filter_map]
          simp [Origin.isHead, Block.region?, Function.comp_def]
      | unclosed opening body =>
          rw [Block.recordsKept_unclosed, List.filter_map]
          simp [Origin.isHead, Block.region?, Function.comp_def]
      | conflict opening body closing =>
          rw [Block.recordsKept_conflict, List.filter_append, List.filter_map, List.filter_map]
          simp [Origin.isHead, Block.region?, Function.comp_def]

theorem bases_recordsKept (h : used.map Resolution.oldId = layout.baseIds) (number : Nat) :
    (recordsKept (kept used layout)).filterMap (fun p => p.1.resolution?.map (·, p.2)) =
      used.zip ((regionsFrom number layout).flatMap Region.base) := by
  induction layout generalizing used number with
  | nil => simp [kept, recordsKept, regionsFrom]
  | cons block rest ih =>
      obtain ⟨hfirst, hrest⟩ := split_used h
      rw [recordsKept_cons, List.filterMap_append, ih hrest (number + block.lines.length),
        regionsFrom, List.flatMap_append]
      cases block with
      | single line =>
          rw [Block.recordsKept_single, List.filterMap_map]
          simp [Origin.resolution?, Block.region?, Function.comp_def, Block.baseIds]
      | unclosed opening body =>
          rw [Block.recordsKept_unclosed,
            List.filterMap_map]
          simp [Origin.resolution?, Block.region?, Function.comp_def, Block.baseIds]
      | conflict opening body closing =>
          have hlength := length_of_map_oldId hfirst
          rw [Block.recordsKept_conflict, List.filterMap_append, List.filterMap_map,
            List.filterMap_map]
          have hzip : ∀ l : List (Resolution × Record),
              l.filterMap (fun q => some (q.1, q.2)) = l := fun l => List.filterMap_some
          simp only [Origin.resolution?, Block.region?, Function.comp_def, Option.map_none,
            List.filterMap_none, Option.map_some, List.nil_append, Option.toList_some,
            List.flatMap_singleton, hzip]
          exact (List.zip_append hlength).symm.trans (by rw [List.take_append_drop])

/-- Every id stands as often in the new file as it does outside conflicts, on the head sides and
among the ids assigned to the base sides. -/
theorem count_recordsKept (h : used.map Resolution.oldId = layout.baseIds)
    (hkeep : ∀ r ∈ used, r.isRemap = false → r.newId = r.oldId) (number : Nat) (x : Text) :
    ((recordsKept (kept used layout)).map fun p => p.1.newId?.getD p.2.id).count x =
      (((layout.flatMap Block.outside).filterMap Record.on?).map Record.id).count x +
        ((regionsFrom number layout).flatMap Region.headIds).count x +
          (used.map Resolution.newId).count x := by
  induction layout generalizing used number with
  | nil => 
      have hnil : used = [] := List.map_eq_nil_iff.mp h
      subst hnil
      rfl
  | cons block rest ih =>
      obtain ⟨hfirst, hrest⟩ := split_used h
      have hrest' := ih hrest (fun r hr => hkeep r (List.mem_of_mem_drop hr))
        (number + block.lines.length)
      have hused : (used.map Resolution.newId).count x =
          ((used.take block.baseIds.length).map Resolution.newId).count x +
            ((used.drop block.baseIds.length).map Resolution.newId).count x := by
        rw [← List.count_append, ← List.map_append, List.take_append_drop]
      rw [recordsKept_cons, List.map_append, List.count_append, hrest', hused, regionsFrom,
        List.flatMap_append, List.flatMap_cons, List.filterMap_append, List.map_append,
        List.count_append, List.count_append]
      suffices hblock : ((recordsKept (block.kept (used.take block.baseIds.length))).map
          fun p => p.1.newId?.getD p.2.id).count x =
            ((block.outside.filterMap Record.on?).map Record.id).count x +
              ((block.region? number).toList.flatMap Region.headIds).count x +
                ((used.take block.baseIds.length).map Resolution.newId).count x by omega
      exact Block.count_recordsKept hfirst (fun r hr => hkeep r (List.mem_of_mem_take hr)) number x

end Layout

/-- What a line that stays has to do with the stretch it stays from. -/
structure Stays (lines : List Text) (used : List Resolution) (p : Origin × Text) : Prop where
  mem : p.2 ∈ lines
  resolution : ∀ r ∈ p.1.resolution?, r ∈ used
  on? : p.1.isHead = true ∨ p.1.resolution?.isSome = true → (Record.on? p.2).isSome = true

theorem headPart_subset (body : List Text) : headPart body ⊆ body := by
  conv => rhs; rw [← append_parts body]
  exact List.subset_append_of_subset_left _ (List.subset_append_left _ _)

theorem basePart_subset (body : List Text) : basePart body ⊆ body :=
  fun _ h => List.dropWhile_subset _ (List.mem_of_mem_tail h)

theorem mem_recordLines {lines : List Text} {line : Text} (h : line ∈ recordLines lines) :
    line ∈ lines ∧ (Record.on? line).isSome = true :=
  List.mem_filter.mp h

theorem Block.stays_of_mem_kept {block : Block} {used : List Resolution} {p : Origin × Text}
    (h : p ∈ block.kept used) : Stays block.lines used p := by
  cases block with
  | single line =>
      cases List.mem_singleton.mp h
      refine ⟨List.mem_singleton_self line, ?_, ?_⟩ <;> simp [Origin.resolution?, Origin.isHead]
  | unclosed opening body =>
      obtain ⟨line, hline, rfl⟩ := List.mem_map.mp h
      refine ⟨hline, ?_, ?_⟩ <;> simp [Origin.resolution?, Origin.isHead]
  | conflict opening body closing =>
      have hbody : body ⊆ (conflict opening body closing).lines := by
        simp [lines]
      cases List.mem_append.mp h with
      | inl h =>
          obtain ⟨line, hline, rfl⟩ := List.mem_map.mp h
          obtain ⟨hmem, hon⟩ := mem_recordLines hline
          refine ⟨hbody (headPart_subset body hmem), ?_, fun _ => hon⟩
          intro r hr
          cases hr
      | inr h =>
          rw [← List.map_uncurry_zip_eq_zipWith] at h
          obtain ⟨⟨r, line⟩, hzip, rfl⟩ := List.mem_map.mp h
          obtain ⟨hr, hline⟩ := List.of_mem_zip hzip
          obtain ⟨hmem, hon⟩ := mem_recordLines hline
          refine ⟨hbody (basePart_subset body hmem), ?_, fun _ => hon⟩
          intro r' hr'
          cases hr'
          exact hr

theorem Layout.stays_of_mem_kept {layout : Layout} {used : List Resolution} {p : Origin × Text}
    (h : p ∈ kept used layout) : Stays (layout.flatMap Block.lines) used p := by
  induction layout generalizing used with
  | nil => cases h
  | cons block rest ih =>
      rw [List.flatMap_cons]
      cases List.mem_append.mp h with
      | inl h =>
          obtain ⟨hmem, hresolution, hon⟩ := Block.stays_of_mem_kept h
          exact ⟨List.mem_append_left _ hmem,
            fun r hr => List.mem_of_mem_take (hresolution r hr), hon⟩
      | inr h =>
          obtain ⟨hmem, hresolution, hon⟩ := ih h
          exact ⟨List.mem_append_right _ hmem,
            fun r hr => List.mem_of_mem_drop (hresolution r hr), hon⟩

theorem Layout.baseIds_subset (layout : Layout) :
    layout.baseIds ⊆ ((layout.flatMap Block.lines).filterMap Record.on?).map Record.id := by
  intro x hx
  obtain ⟨block, hblock, hx⟩ := List.mem_flatMap.mp hx
  cases block with
  | single line => cases hx
  | unclosed opening body => cases hx
  | conflict opening body closing =>
      obtain ⟨r, hr, rfl⟩ := List.mem_map.mp hx
      obtain ⟨line, hline, hon⟩ := List.mem_filterMap.mp hr
      refine List.mem_map_of_mem (List.mem_filterMap.mpr ⟨line, ?_, hon⟩)
      refine List.mem_flatMap.mpr ⟨_, hblock, ?_⟩
      have hmem := basePart_subset body hline
      simp [Block.lines, hmem]

theorem Block.outside_subset (block : Block) : block.outside ⊆ block.lines := by
  cases block with
  | single _ | unclosed _ _ => exact List.Subset.refl _
  | conflict _ _ _ => exact List.nil_subset _

theorem Block.withoutAncestors_subset (block : Block) : block.withoutAncestors ⊆ block.lines := by
  cases block with
  | single _ | unclosed _ _ => exact List.Subset.refl _
  | conflict opening body closing =>
      have hhead := headPart_subset body
      have hdivider : dividerPart body ⊆ body := List.dropWhile_subset _
      intro line hline
      simp only [withoutAncestors, lines, List.mem_append, List.mem_cons] at hline ⊢
      rcases hline with ((rfl | hline) | hline) | hline
      · exact .inl (.inl rfl)
      · exact .inl (.inr (hhead hline))
      · exact .inl (.inr (hdivider hline))
      · exact .inr hline

theorem Layout.withoutAncestors_subset (lines : List Text) : withoutAncestors lines ⊆ lines := by
  intro line hline
  obtain ⟨block, hblock, hline⟩ := List.mem_flatMap.mp hline
  rw [← flatMap_lines lines]
  exact List.mem_flatMap.mpr ⟨block, hblock, block.withoutAncestors_subset hline⟩

theorem Layout.outside_subset (lines : List Text) : outside lines ⊆ lines := by
  intro line hline
  obtain ⟨block, hblock, hline⟩ := List.mem_flatMap.mp hline
  rw [← flatMap_lines lines]
  exact List.mem_flatMap.mpr ⟨block, hblock, block.outside_subset hline⟩

end IssueMerge
