import IssueMerge.Yaml.Scalar

/-!
The values that YAML documents hold, and what reads them. A mapping may hold no key twice; numbers and
truth values are the same key when they are equal as numbers.
-/

namespace IssueMerge

namespace Yaml

/-- The value of a document. A mapping may be an ordered one; a pair is an item of a list of pairs. -/
inductive Value where
  | scalar (s : Scalar)
  | sequence (items : List Value)
  | pair (key value : Value)
  | set (items : List Value)
  | mapping (pairs : List (Value × Value))

/-- What reads a document: its value, or what is wrong with the text. -/
abbrev Reader := Text → Except Text Value

namespace Value

/-- The integer that a scalar is equal to as a key, if there is one. -/
def keyInteger? : Scalar → Option Int
  | .bool b => some (if b then 1 else 0)
  | .int n => some n
  | .float (.finite negative m e) =>
    let size : Nat := m * Binary64.twoTo e.toNat / Binary64.twoTo (-e).toNat
    if size * Binary64.twoTo (-e).toNat = m * Binary64.twoTo e.toNat then
      some (if negative then -(size : Int) else size)
    else
      none
  | _ => none

def sameScalar (a b : Scalar) : Bool :=
  match keyInteger? a, keyInteger? b with
  | some m, some n => m = n
  | none, none => a = b && a ≠ .float .nan
  | _, _ => false

mutual

def sameKey : Value → Value → Bool
  | .scalar a, .scalar b => sameScalar a b
  | .sequence xs, .sequence ys => sameKeys xs ys
  | .pair k v, .pair k' v' => sameKey k k' && sameKey v v'
  | _, _ => false

def sameKeys : List Value → List Value → Bool
  | [], [] => true
  | x :: xs, y :: ys => sameKey x y && sameKeys xs ys
  | _, _ => false

end

def find? (key : Value) (pairs : List (Value × Value)) : Option Value :=
  (pairs.find? fun p => sameKey p.1 key).map (·.2)

def field? (name : Text) (pairs : List (Value × Value)) : Option Value :=
  find? (.scalar (.text name)) pairs

def isVoid : Value → Bool
  | .scalar .null => true
  | .scalar (.bool b) => !b
  | .scalar (.int n) => n = 0
  | .scalar (.float (.finite _ m _)) => m = 0
  | .scalar (.text t) => t.isEmpty
  | .scalar (.bytes b) => b.isEmpty
  | .scalar _ => false
  | .sequence items => items.isEmpty
  | .pair _ _ => false
  | .set items => items.isEmpty
  | .mapping pairs => pairs.isEmpty

end Value

end Yaml

end IssueMerge
