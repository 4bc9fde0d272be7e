import IssueMerge.Number.Binary64
import IssueMerge.Text.CodePoint

/-!
JSON values. Integers are unbounded and apart from floating-point numbers; an object is the
sequence of its fields in the order in which their names first appeared.
-/

namespace IssueMerge

/-- A JSON value. -/
inductive Json where
  | null
  | bool (b : Bool)
  | int (n : Int)
  | float (x : Binary64)
  | str (s : Text)
  | arr (items : List Json)
  | obj (fields : List (Text × Json))

namespace Json

/-- The fields of an object, in order. -/
abbrev Fields := List (Text × Json)

def field? (name : Text) : Fields → Option Json
  | [] => none
  | (n, v) :: rest => if n = name then some v else field? name rest

def hasField (name : Text) (fields : Fields) : Bool :=
  (field? name fields).isSome

/-- Gives a field a value: in its place if it is there, behind all others otherwise. -/
def setField (name : Text) (value : Json) : Fields → Fields
  | [] => [(name, value)]
  | (n, v) :: rest =>
    if n = name then (n, value) :: rest else (n, v) :: setField name value rest

/-- The object with these fields; the last value given to a name counts. -/
def collect (pairs : Fields) : Fields :=
  pairs.foldl (fun fields p => setField p.1 p.2 fields) []

/-- Is the value `null`? -/
def isNull : Json → Bool
  | null => true
  | _ => false

/-- The kinds of values. -/
inductive Kind where
  | null
  | bool
  | int
  | float
  | str
  | arr
  | obj
deriving DecidableEq

def kind : Json → Kind
  | null => .null
  | bool _ => .bool
  | int _ => .int
  | float _ => .float
  | str _ => .str
  | arr _ => .arr
  | obj _ => .obj

def Kind.name : Kind → Text
  | .null => "NoneType"
  | .bool => "bool"
  | .int => "int"
  | .float => "float"
  | .str => "str"
  | .arr => "list"
  | .obj => "dict"

end Json

end IssueMerge
