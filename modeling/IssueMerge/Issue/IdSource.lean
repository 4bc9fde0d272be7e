import IssueMerge.Issue.Id

/-!
Where fresh ids come from. A source answers questions one after the other, and an answer may be a
failure. The usual source counts on from the largest number in use.
-/

namespace IssueMerge

/-- The answers of a source: to question `k`, counted from 0, an id or the reason of a failure. -/
abbrev IdSource := Nat → Except Text Text

/-- The source that counts on from the ids in use, under the given stem or, without one, under the
stem of the first id with a number. -/
structure NamespaceScan where
  ids : List Text
  stem : Option Text := none

namespace NamespaceScan

def activeStem (s : NamespaceScan) : Except Numeral.TooLong Text :=
  match s.stem with
  | some stem => .ok stem
  | none => (·.getD IssueId.defaultStem) <$> IssueId.firstStem? s.ids

/-- The source in the course of its answers. The ids are gone through for the first answer only; from
then on the stem and the number of the next answer are known. -/
structure Count extends NamespaceScan where
  next : Option Nat := none

namespace Count

/-- The number of the next answer. -/
def nextNumber (c : Count) (stem : Text) : Except Numeral.TooLong Nat :=
  match c.next with
  | some n => .ok n
  | none => (· + 1) <$> IssueId.highest stem c.ids

/-- The answer with a number, and the source behind it. A number that is too long to be written is not
passed over. -/
def give (c : Count) (stem : Text) (n : Nat) : Except Numeral.TooLong Text × Count :=
  match IssueId.format stem n with
  | .error e => (.error e, { c with next := some n })
  | .ok id => (.ok id, { c with next := some (n + 1) })

/-- The next answer, and the source behind it. -/
def answer (c : Count) : Except Numeral.TooLong Text × Count :=
  match c.activeStem with
  | .error e => (.error e, c)
  | .ok stem =>
    let c := { c with stem := some stem }
    match c.nextNumber stem with
    | .error e => (.error e, c)
    | .ok n => c.give stem n

end Count

/-- The source behind so many answers. -/
def after (s : NamespaceScan) : Nat → Count
  | 0 => { s with }
  | k + 1 => (s.after k).answer.2

def source (s : NamespaceScan) : IdSource := fun k =>
  (s.after k).answer.1.mapError Numeral.TooLong.message

end NamespaceScan

end IssueMerge
