import IssueMerge.Conflict.Marker
import IssueMerge.Reference.Rewrite

/-!
Rebuilding a file from a resolution plan. The lines are walked once. A conflict is replaced by its
records, those of the head side first; a record outside conflicts is rewritten if it refers to an id
that changed; all else stays as it is, a conflict that is never closed included.
-/

namespace IssueMerge

/-- Why a plan does not fit a file. -/
inductive RebuildError where
  /-- The next entry of the base side is for another record, or there is none. -/
  | mismatch (expected : Option Text) (found : Text)
  /-- An entry of the base side is left over. -/
  | leftover (oldId : Text)
  | numeral (e : Numeral.TooLong)
deriving DecidableEq

def RebuildError.message : RebuildError → Text
  | .mismatch expected found =>
    "Resolution plan out of step: expected " ++ expected.getD "nothing" ++ ", found " ++ found
  | .leftover oldId => "Resolution plan out of step: " ++ oldId ++ " was never reached"
  | .numeral e => e.message

/-- A line with the record on it. -/
structure Entry where
  line : Text
  record : Record

/-- A conflict that is open: its lines so far and the records on them. -/
structure PendingConflict where
  lines : List Text
  head : List Entry := []
  base : List Entry := []

/-- The state of a walk: where the next line stands, the conflict that is open, the entries of the
plan's base side that are not used up, and the lines of the new file. -/
structure Rebuild where
  place : Place := .outside
  pending : Option PendingConflict := none
  todo : List Resolution
  output : List Text := []
  regionsResolved : Nat := 0
  recordsRewritten : Nat := 0

namespace Rebuild

/-- Emits a line as it is. -/
def keepLine (s : Rebuild) (line : Text) : Rebuild :=
  { s with output := s.output ++ [line] }

/-- Emits a record: the line it stands on, or its new form if it changed. A carriage return at the
end of the line is kept. -/
def emit (s : Rebuild) (line : Text) : Option Record → Rebuild
  | none => s.keepLine line
  | some changed =>
    let ending : Text := if line.endsWithReturn then [.carriageReturn] else []
    { s with
      output := s.output ++ [changed.toLine ++ ending]
      recordsRewritten := s.recordsRewritten + 1 }

def outside (plan : ResolutionPlan) (s : Rebuild) (line : Text) : Except RebuildError Rebuild :=
  match Record.ofLine? line with
  | .error e => .error (.numeral e)
  | .ok none => .ok (s.keepLine line)
  | .ok (some record) => .ok (s.emit line (record.rewritten? plan.table))

/-- Emits a record of the head side. References to ids of that side mean what they meant. -/
def emitHead (plan : ResolutionPlan) (s : Rebuild) (e : Entry) : Rebuild :=
  s.emit e.line (e.record.rewritten? (plan.table.without plan.headIds))

/-- The new form of a record of the base side. -/
def resolved? (plan : ResolutionPlan) (r : Resolution) (record : Record) : Option Record :=
  let renamed := if r.isRemap then record.renamed? r.newId else none
  ((renamed.getD record).rewritten? plan.table).or renamed

/-- Emits the records of the base side, each by the next entry of the plan. -/
def emitBase (plan : ResolutionPlan) (s : Rebuild) : List Entry → Except RebuildError Rebuild
  | [] => .ok s
  | e :: rest =>
    match s.todo with
    | [] => .error (.mismatch none e.record.id)
    | r :: todo =>
      if r.oldId = e.record.id then
        emitBase plan ({ s with todo }.emit e.line (resolved? plan r e.record)) rest
      else
        .error (.mismatch (some r.oldId) e.record.id)

def close (plan : ResolutionPlan) (s : Rebuild) (c : PendingConflict) : Except RebuildError Rebuild := do
  let s ← emitBase plan (c.head.foldl (emitHead plan) s) c.base
  .ok { s with regionsResolved := s.regionsResolved + 1 }

/-- Emits the lines of a conflict that is not closed. -/
def flush (s : Rebuild) (c : PendingConflict) : Rebuild :=
  { s with output := s.output ++ c.lines }

/-- The conflict with the record on a line of content, if there is one at this place. -/
def addContent (c : PendingConflict) (place : Place) (line : Text) :
    Except RebuildError PendingConflict :=
  if place = .ancestor then
    .ok c
  else
    match Record.ofLine? line with
    | .error e => .error (.numeral e)
    | .ok none => .ok c
    | .ok (some record) =>
      if place = .head then .ok { c with head := c.head ++ [⟨line, record⟩] }
      else .ok { c with base := c.base ++ [⟨line, record⟩] }

def step (plan : ResolutionPlan) (s : Rebuild) (line : Text) : Except RebuildError Rebuild :=
  let kind := LineKind.ofLine line
  let place := s.place.after kind
  match s.pending with
  | none =>
    match kind with
    | .opening => .ok { s with place, pending := some { lines := [line] } }
    | .content => outside plan s line
    | _ => .ok (s.keepLine line)
  | some c =>
    let extended := { c with lines := c.lines ++ [line] }
    match kind with
    | .opening => .ok { s.flush c with place, pending := some { lines := [line] } }
    | .content => do
      let extended ← addContent extended s.place line
      .ok { s with pending := some extended }
    | .closing => close plan { s with place, pending := none } extended
    | _ => .ok { s with place, pending := some extended }

def run (plan : ResolutionPlan) (s : Rebuild) : List Text → Except RebuildError Rebuild
  | [] => .ok s
  | line :: rest => do
    let s ← step plan s line
    run plan s rest

/-- Ends a walk: a conflict that is open stays, and the plan must be used up. -/
def finish (s : Rebuild) : Except RebuildError Rebuild :=
  let s := match s.pending with
    | some c => { s.flush c with pending := none }
    | none => s
  match s.todo with
  | [] => .ok s
  | r :: _ => .error (.leftover r.oldId)

end Rebuild

def ResolutionPlan.rebuild (plan : ResolutionPlan) (lines : List Text) :
    Except RebuildError Rebuild := do
  let s ← Rebuild.run plan { todo := plan.onSide .base } lines
  s.finish

end IssueMerge
