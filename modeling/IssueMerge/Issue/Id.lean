import IssueMerge.Text.Numeral

/-!
Issue ids. An id is a stem and a suffix joined by its last hyphen, so `bd-web-9` belongs to the stem
`bd-web` and not to `bd`. Only suffixes of digits are numbers.
-/

namespace IssueMerge

namespace IssueId

/-- What stands between stem and suffix. -/
def hyphen : CodePoint := CodePoint.ofChar '-'

/-- The stem of ids where nothing else gives one. -/
def defaultStem : Text := "bd"

/-- The parts of a text before and behind the last occurrence of a separator. -/
def splitLast? (separator : CodePoint) : Text → Option (Text × Text)
  | [] => none
  | c :: t =>
    match splitLast? separator t with
    | some (before, behind) => some (c :: before, behind)
    | none => if c = separator then some ([], t) else none

/-- An id taken apart. -/
structure Parts where
  stem : Text
  number : Option Nat
deriving DecidableEq

def isNumeric (suffix : Text) : Bool :=
  !suffix.isEmpty && suffix.all CodePoint.isDigit

/-- Takes an id apart. An id without a hyphen, or with none but the first character, is all stem. -/
def parts (id : Text) : Except Numeral.TooLong Parts :=
  match splitLast? hyphen id with
  | none => .ok ⟨id, none⟩
  | some (stem, suffix) =>
    if stem.isEmpty then .ok ⟨id, none⟩
    else if isNumeric suffix then (fun n => ⟨stem, some n⟩) <$> Numeral.read Numeral.maxDigits suffix
    else .ok ⟨stem, none⟩

def format (stem : Text) (number : Int) : Except Numeral.TooLong Text :=
  (fun digits => stem ++ hyphen :: digits) <$> Numeral.write number

/-- The stem of the first id with a number. -/
def firstStem? : List Text → Except Numeral.TooLong (Option Text)
  | [] => .ok none
  | id :: rest => do
    let p ← parts id
    if p.number.isSome then .ok (some p.stem) else firstStem? rest

/-- The largest number among the ids of a stem that is above `least`, else `least`. -/
def highestFrom (stem : Text) (least : Nat) : List Text → Except Numeral.TooLong Nat
  | [] => .ok least
  | id :: rest => do
    let p ← parts id
    match p.number with
    | some n => highestFrom stem (if p.stem = stem ∧ least < n then n else least) rest
    | none => highestFrom stem least rest

/-- The largest number among the ids of a stem; 0 if there is none. -/
def highest (stem : Text) (ids : List Text) : Except Numeral.TooLong Nat :=
  highestFrom stem 0 ids

end IssueId

end IssueMerge
