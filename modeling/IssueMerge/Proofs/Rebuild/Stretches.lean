import IssueMerge.Proofs.Rebuild.Lines
import IssueMerge.Proofs.Rebuild.Records

/-!
What stands in a new file for each stretch of the old one. A line outside conflicts and a conflict
without a closing marker stand for themselves, but for a record that changes; a conflict is replaced by
its records. Where a stretch stands matters only by the number of base records in front of it.
-/

namespace IssueMerge

namespace Record

/-- The line that is emitted when the record on a line becomes another one. It is the old line if
there is no change. -/
inductive Rendered (line : Text) (r : Record) : Record → Text → Prop where
  | same : Rendered line r r line
  | changed {r' : Record} (differs : r' ≠ r) : Rendered line r r'
      (r'.toLine ++ if line.endsWithReturn then [.carriageReturn] else [])

end Record

namespace Origin

variable {plan : ResolutionPlan} {origin : Origin} {r : Record} {line : Text}

theorem rename_eq_self (h : origin.newId?.getD r.id = r.id) : origin.rename r = r := by
  simp only [rename]
  cases hnew : origin.newId? with
  | none => rfl
  | some newId =>
      rw [hnew, Option.getD_some] at h
      simp only [Record.renamed?, h, ↓reduceIte, Option.getD_none]

/-- A record is written anew only if it changes. -/
theorem change?_eq_none : origin.change? plan r = none ↔ origin.settle plan r = r := by
  constructor
  · intro h
    rw [← change?_getD, h]
    rfl
  · intro h
    have hid : origin.newId?.getD r.id = r.id := by
      rw [← id_settle plan, h]
    rw [settle, rename_eq_self hid] at h
    have hkept := Record.rewritten?_eq_none.mpr h
    cases origin with
    | outside => exact hkept
    | head => exact hkept
    | unclosed => rfl
    | base resolution =>
        -- A remap to the id that the record has does not rename it.
        have hrenamed : (if resolution.isRemap then r.renamed? resolution.newId else none) = none := by
          cases hremap : resolution.isRemap with
          | false => rfl
          | true =>
              simp only [newId?, hremap, ↓reduceIte, Option.getD_some] at hid
              simp only [Record.renamed?, hid, ↓reduceIte]
        simp only [table] at hkept
        simp only [change?, Rebuild.resolved?, hrenamed, Option.getD_none, hkept, Option.or_none]

theorem rendered_emit (h : Record.on? line = some r) (plan : ResolutionPlan) (origin : Origin) :
    Record.Rendered line r (origin.settle plan r) (origin.emit plan line) := by
  have hsettle := change?_getD plan origin r
  simp only [emit, h, Option.bind_some]
  cases hchange : origin.change? plan r with
  | none =>
      rw [change?_eq_none.mp hchange]
      exact .same
  | some changed =>
      rw [hchange, Option.getD_some] at hsettle
      rw [← hsettle]
      refine .changed fun hsame => ?_
      rw [hsettle] at hsame
      rw [change?_eq_none.mpr hsame] at hchange
      cases hchange

theorem emit_eq_self (h : ∀ r, Record.on? line = some r → origin.settle plan r = r) :
    origin.emit plan line = line := by
  cases hon : Record.on? line with
  | none => exact emit_of_none plan origin hon
  | some r => rw [emit, hon, Option.bind_some, change?_eq_none.mpr (h r hon), lineFor]

end Origin

/-- The lines for a stretch. So many base records stand in front of it, and each is resolved by the
entry of the plan's base side with the same number. -/
def Block.rebuilt (plan : ResolutionPlan) (before : Nat) : Block → List Text
  | single line => [Origin.outside.emit plan line]
  | conflict _ body _ => (recordLines (headPart body)).map (Origin.head.emit plan) ++
      List.zipWith (fun r line => (Origin.base r).emit plan line) ((plan.onSide .base).drop before)
        (recordLines (basePart body))
  | unclosed opening body => opening :: body

/-- The lines for some stretches that have so many base records in front of them. -/
def Layout.rebuiltFrom (plan : ResolutionPlan) : (before : Nat) → Layout → List Text
  | _, [] => []
  | before, block :: rest =>
    block.rebuilt plan before ++ rebuiltFrom plan (before + block.baseIds.length) rest

theorem zipWith_take_length {α β γ : Type} (f : α → β → γ) (as : List α) (bs : List β) :
    List.zipWith f (as.take bs.length) bs = List.zipWith f as bs := by
  induction bs generalizing as with
  | nil => simp
  | cons b bs ih =>
      cases as with
      | nil => rfl
      | cons a as => simp [ih]

theorem length_recordLines (lines : List Text) :
    (recordLines lines).length = (lines.filterMap Record.on?).length := by
  rw [recordLines, ← List.countP_eq_length_filter, List.length_filterMap_eq_countP]

namespace Layout

theorem emitted_eq_rebuiltFrom (plan : ResolutionPlan) (layout : Layout) (before : Nat) :
    layout.emitted plan ((plan.onSide .base).drop before) = layout.rebuiltFrom plan before := by
  induction layout generalizing before with
  | nil => rfl
  | cons block rest ih =>
      simp only [emitted] at ih
      rw [emitted, kept, List.map_append, List.drop_drop, ih, rebuiltFrom]
      congr 1
      cases block with
      | single line => rfl
      | unclosed opening body =>
          rw [Block.kept, List.map_map]
          exact List.map_id'' (Origin.emit_unclosed plan) _
      | conflict opening body closing =>
          simp only [Block.kept, Block.rebuilt, List.map_append, List.map_map, List.map_zipWith]
          congr 1
          rw [Block.baseIds, List.length_map, ← length_recordLines]
          exact zipWith_take_length _ _ _

/-- Without conflicts and remaps the file stays. -/
theorem rebuiltFrom_of_table_eq_nil {plan : ResolutionPlan} {layout : Layout}
    (htable : plan.table = []) (h : ∀ block ∈ layout, block.isConflict = false) (before : Nat) :
    layout.rebuiltFrom plan before = layout.flatMap Block.lines := by
  induction layout generalizing before with
  | nil => rfl
  | cons block rest ih =>
      obtain ⟨hblock, hrest⟩ := List.forall_mem_cons.mp h
      rw [rebuiltFrom, ih hrest, List.flatMap_cons]
      congr 1
      cases block with
      | unclosed opening body => rfl
      | conflict opening body closing => cases hblock
      | single line =>
          apply congrArg (fun l => [l])
          apply Origin.emit_eq_self
          intro r _
          rw [Origin.settle, Origin.table, htable, Record.rewrite_nil]
          rfl

end Layout

namespace Block

variable {opening closing : Text} {body : List Text} {plan : ResolutionPlan} {before : Nat}

/-- Of a conflict only records stay, none of its other lines. -/
theorem kind_of_mem_rebuilt {line : Text}
    (h : line ∈ (conflict opening body closing).rebuilt plan before) :
    LineKind.ofLine line = .content := by
  cases List.mem_append.mp h with
  | inl h =>
      obtain ⟨line, hline, rfl⟩ := List.mem_map.mp h
      rw [Origin.kind_emit]
      exact Record.kind_of_on? (mem_recordLines hline).2
  | inr h =>
      rw [← List.map_uncurry_zip_eq_zipWith] at h
      obtain ⟨⟨r, line⟩, hzip, rfl⟩ := List.mem_map.mp h
      rw [Function.uncurry_apply_pair, Origin.kind_emit]
      exact Record.kind_of_on? (mem_recordLines (List.of_mem_zip hzip).2).2

theorem length_rebuilt
    (h : before + (conflict opening body closing).baseIds.length ≤ (plan.onSide .base).length) :
    ((conflict opening body closing).rebuilt plan before).length =
      (recordLines (headPart body)).length + (recordLines (basePart body)).length := by
  rw [baseIds, List.length_map, ← length_recordLines] at h
  rw [rebuilt, List.length_append, List.length_map, List.length_zipWith, List.length_drop]
  omega

end Block

end IssueMerge
