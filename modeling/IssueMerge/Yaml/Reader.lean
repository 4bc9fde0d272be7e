import IssueMerge.Yaml.Node
import IssueMerge.Yaml.Value

/-!
A reader of YAML documents. The settings are read by whatever reader they are given; the program gives
them this one. Pairs that are merged in count only for keys that are not there.
-/

namespace IssueMerge

namespace Yaml

namespace Value

/-- May the value be looked up? -/
def isHashable : Value → Bool
  | .scalar _ => true
  | .pair k v => k.isHashable && v.isHashable
  | _ => false

/-- May the value be a key? A sequence may be one if its items may be looked up. -/
def mayBeKey : Value → Bool
  | .sequence items => items.all isHashable
  | v => v.isHashable

def standardTag? (tag : Text) : Option Text :=
  let long : Text := "!<tag:yaml.org,2002:"
  ((Text.ofString "!!").isPrefixOf? tag).or ((long.isPrefixOf? tag).map List.dropLast)

/-- The value of a scalar; `none` if the tag does not fit it. -/
def ofScalar (tag : Option Text) (plain : Bool) (text : Text) : Option Value :=
  let resolved := Scalar.ofPlain text
  match tag with
  | none => if plain then resolved.map .scalar else some (.scalar (.text text))
  | some tag =>
    if tag = Text.ofString "!" then some (.scalar (.text text))
    else
      match standardTag? tag with
      | none => none
      | some name =>
        if name = Text.ofString "str" then some (.scalar (.text text))
        else if name = Text.ofString "null" then some (.scalar .null)
        else if name = Text.ofString "bool" then (Scalar.truth? text).map (.scalar ∘ .bool)
        else if name = Text.ofString "binary" then (Scalar.bytes? text).map (.scalar ∘ .bytes)
        else
          match resolved with
          | some (.int n) =>
            if name = Text.ofString "int" then some (.scalar (.int n))
            else if name = Text.ofString "float" then
              some (.scalar (.float (Binary64.ofDecimal (n < 0) n.natAbs 0)))
            else none
          | some (.float x) => if name = Text.ofString "float" then some (.scalar (.float x)) else none
          | some .date => if name = Text.ofString "timestamp" then some (.scalar .date) else none
          | _ => none

/-- Adds a pair to a mapping; `none` if its key is there or may be no key. -/
def addPair (key value : Value) (pairs : List (Value × Value)) : Option (List (Value × Value)) :=
  if key.mayBeKey && (find? key pairs).isNone then some (pairs ++ [(key, value)]) else none

/-- The pairs of a mapping, or of a sequence of mappings, that are to be merged in. -/
def mergeable? : Value → Option (List (Value × Value))
  | .mapping pairs => some pairs
  | .sequence items =>
    items.foldlM (fun pairs item =>
      match item with
      | .mapping more => some (pairs ++ more)
      | _ => none) []
  | _ => none

/-- Adds the pairs whose keys are not there. -/
def mergeIn (pairs more : List (Value × Value)) : List (Value × Value) :=
  more.foldl (fun pairs p => if (find? p.1 pairs).isSome then pairs else pairs ++ [p]) pairs

def isMergeKey : Node → Bool
  | .scalar none true text => text = Text.ofString "<<"
  | _ => false

/-- Is this a key that stands for itself though no scalar of its form has a value? -/
def isEqualsKey : Node → Bool
  | .scalar none true text => text = Text.ofString "="
  | _ => false

def isTagged (tag : Option Text) (name : String) : Bool :=
  tag.bind standardTag? = some (Text.ofString name)

def fits (tag : Option Text) (name : String) : Bool :=
  tag.all (· = Text.ofString "!") || isTagged tag name

/-- The pairs of an ordered mapping; `none` if a key is given twice or may not be looked up. -/
def ordered? (pairs : List (Value × Value)) : Option (List (Value × Value)) :=
  pairs.foldlM (fun seen p =>
    if p.1.isHashable && (find? p.1 seen).isNone then some (seen ++ [p]) else none) []

mutual

/-- The value of a node; `none` if there is none. -/
def ofNode : Node → Option Value
  | .scalar tag plain text => ofScalar tag plain text
  | .sequence tag items =>
    if fits tag "seq" then (ofNodes items).map .sequence
    else if isTagged tag "pairs" then
      (ofItems items).map fun pairs => .sequence (pairs.map fun p => .pair p.1 p.2)
    else if isTagged tag "omap" then ((ofItems items).bind ordered?).map .mapping
    else none
  | .mapping tag pairs =>
    if fits tag "map" then
      (ofPairs pairs [] []).map fun (own, merged) => .mapping (mergeIn own merged)
    else if isTagged tag "set" then
      (ofPairs pairs [] []).map fun (own, merged) => .set ((mergeIn own merged).map (·.1))
    else none

def ofNodes : List Node → Option (List Value)
  | [] => some []
  | x :: rest => do
    let x ← ofNode x
    let rest ← ofNodes rest
    some (x :: rest)

/-- The one pair of a mapping. -/
def ofItem : List (Node × Node) → Option (Value × Value)
  | [(k, v)] => do
    let k ← ofNode k
    let v ← ofNode v
    some (k, v)
  | _ => none

/-- The pairs of a sequence of mappings with one pair each. -/
def ofItems : List Node → Option (List (Value × Value))
  | [] => some []
  | .mapping _ pairs :: rest => do
    let p ← ofItem pairs
    let rest ← ofItems rest
    some (p :: rest)
  | _ => none

/-- The pairs of a mapping, added to those that came before, and the pairs to be merged in. -/
def ofPairs : List (Node × Node) → (own merged : List (Value × Value)) →
    Option (List (Value × Value) × List (Value × Value))
  | [], own, merged => some (own, merged)
  | (k, v) :: rest, own, merged => do
    if isMergeKey k then
      let v ← ofNode v
      let more ← mergeable? v
      ofPairs rest own (merged ++ more)
    else
      let k ← if isEqualsKey k then some (.scalar (.text "=")) else ofNode k
      let v ← ofNode v
      let own ← addPair k v own
      ofPairs rest own merged

end

end Value

/-- Why a text is no document with a value. -/
inductive Error where
  | malformed (mark : Mark)
  | document
  | value
deriving DecidableEq

def Error.message : Error → Text
  | .malformed mark =>
    "unexpected text in line " ++ Numeral.digits (mark.line + 1) ++ ", column "
      ++ Numeral.digits (mark.column + 1)
  | .document => "not a single well-formed document"
  | .value => "a tag or key that does not fit, or a key given twice"

def parse (t : Text) : Except Error Value :=
  match tokens t with
  | .error e => .error (.malformed e.mark)
  | .ok ts =>
    match document ts with
    | none => .error .document
    | some node =>
      match Value.ofNode node with
      | none => .error .value
      | some v => .ok v

def read : Reader := fun t =>
  (parse t).mapError Error.message

end Yaml

end IssueMerge
