import IssueMerge.Proofs.Conflict.Layout
import IssueMerge.Rebuild

/-!
What becomes of a file, said of its layout. Of a conflict the lines with records stay, those of the
head side first; of all else every line stays. A line is emitted as it is unless there is a record on
it that changes, and how it changes depends on where the line comes from.
-/

namespace IssueMerge

/-- Where a line that stays comes from. A record of the base side comes with its resolution. -/
inductive Origin where
  | outside
  | unclosed
  | head
  | base (r : Resolution)

namespace Origin

def change? (plan : ResolutionPlan) : Origin → Record → Option Record
  | outside, record => record.rewritten? plan.table
  | unclosed, _ => none
  | head, record => record.rewritten? (plan.table.without plan.headIds)
  | base r, record => Rebuild.resolved? plan r record

def lineFor (line : Text) : Option Record → Text
  | none => line
  | some changed => changed.toLine ++ if line.endsWithReturn then [.carriageReturn] else []

/-- The line that is emitted for one that stays. -/
def emit (plan : ResolutionPlan) (origin : Origin) (line : Text) : Text :=
  lineFor line ((Record.on? line).bind (origin.change? plan))

theorem emit_of_none (plan : ResolutionPlan) (origin : Origin) {line : Text}
    (h : Record.on? line = none) : origin.emit plan line = line := by
  rw [emit, h]
  rfl

theorem emit_unclosed (plan : ResolutionPlan) (line : Text) : unclosed.emit plan line = line := by
  simp only [emit]
  cases Record.on? line <;> rfl

end Origin

def recordLines (lines : List Text) : List Text :=
  lines.filter fun line => (Record.on? line).isSome

namespace Block

def isConflict : Block → Bool
  | conflict _ _ _ => true
  | single _ | unclosed _ _ => false

/-- The ids of the base side of a conflict. -/
def baseIds : Block → List Text
  | conflict _ body _ => ((basePart body).filterMap Record.on?).map Record.id
  | single _ | unclosed _ _ => []

/-- The lines of a stretch that stay, with the resolutions of its base side given. -/
def kept (used : List Resolution) : Block → List (Origin × Text)
  | single line => [(.outside, line)]
  | unclosed opening body => (opening :: body).map (.unclosed, ·)
  | conflict _ body _ => (recordLines (headPart body)).map (.head, ·) ++
      List.zipWith (fun r line => (.base r, line)) used (recordLines (basePart body))

end Block

namespace Layout

/-- The ids of the base sides of all conflicts. -/
def baseIds (layout : Layout) : List Text :=
  layout.flatMap Block.baseIds

/-- The lines that stay; the given resolutions are for the base sides one after the other. -/
def kept : List Resolution → Layout → List (Origin × Text)
  | _, [] => []
  | used, block :: rest =>
    block.kept (used.take block.baseIds.length) ++ kept (used.drop block.baseIds.length) rest

/-- The lines of the new file. -/
def emitted (plan : ResolutionPlan) (used : List Resolution) (layout : Layout) : List Text :=
  (kept used layout).map fun p => p.1.emit plan p.2

theorem kept_append {front back : List Resolution} (first rest : Layout)
    (h : front.length = first.baseIds.length) :
    kept (front ++ back) (first ++ rest) = kept front first ++ kept back rest := by
  induction first generalizing front with
  | nil =>
      have hnil : front = [] := List.eq_nil_of_length_eq_zero h
      rw [hnil]
      rfl
  | cons block first ih =>
      simp only [baseIds, List.flatMap_cons, List.length_append] at h
      have hle : block.baseIds.length ≤ front.length := by omega
      simp only [List.cons_append, kept, List.take_append_of_le_length hle,
        List.drop_append_of_le_length hle, List.append_assoc]
      rw [ih (by rw [List.length_drop, h, baseIds]; omega)]

theorem emitted_append {plan : ResolutionPlan} {front back : List Resolution} (first rest : Layout)
    (h : front.length = first.baseIds.length) :
    emitted plan (front ++ back) (first ++ rest) =
      emitted plan front first ++ emitted plan back rest := by
  simp only [emitted, kept_append first rest h, List.map_append]

theorem emitted_unclosed (plan : ResolutionPlan) (opening : Text) (body : List Text) :
    emitted plan [] [.unclosed opening body] = opening :: body := by
  simp only [emitted, kept, Block.kept, List.append_nil, List.map_map]
  exact List.map_id'' (Origin.emit_unclosed plan) _

theorem flatMap_baseIds_regionsFrom (number : Nat) (layout : Layout) :
    (regionsFrom number layout).flatMap Region.baseIds = layout.baseIds := by
  induction layout generalizing number with
  | nil => rfl
  | cons block rest ih =>
      simp only [regionsFrom, List.flatMap_append, ih, baseIds, List.flatMap_cons]
      cases block <;> simp [Block.region?, Region.baseIds, Block.baseIds]

theorem length_regionsFrom (number : Nat) (layout : Layout) :
    (regionsFrom number layout).length = layout.countP Block.isConflict := by
  induction layout generalizing number with
  | nil => rfl
  | cons block rest ih =>
      simp only [regionsFrom, List.length_append, ih, List.countP_cons]
      cases block <;> simp [Block.region?, Block.isConflict, Nat.add_comm]

end Layout

end IssueMerge
