import IssueMerge.Text.Blank

/-!
Paths of files. A path is a sequence of names from the working directory or from the root; empty
names and names of one point are dropped when it is read, and `..` is kept.
-/

namespace IssueMerge

/-- Where a path starts. Two slashes, and no more, are a root of their own kind. -/
inductive Anchor where
  | relative
  | root
  | doubleRoot
deriving DecidableEq

/-- The path of a file. -/
structure Path where
  anchor : Anchor := .relative
  parts : List Text := []
deriving DecidableEq

namespace Path

def slash : CodePoint := CodePoint.ofChar '/'

/-- The name that leads to the directory above. -/
def upName : Text := ".."

def pieces : Text → List Text
  | [] => [[]]
  | c :: t =>
    if c = slash then
      [] :: pieces t
    else
      match pieces t with
      | [] => [[c]]
      | p :: ps => (c :: p) :: ps

def ofText (t : Text) : Path where
  anchor :=
    match (t.takeWhile (· = slash)).length with
    | 0 => .relative
    | 2 => .doubleRoot
    | _ => .root
  parts := (pieces t).filter fun p => p ≠ [] ∧ p ≠ Text.ofString "."

/-- The text of a path; the empty path is written as one point. -/
def toText (p : Path) : Text :=
  let names := Text.joinWith [slash] p.parts
  match p.anchor with
  | .relative => if p.parts = [] then "." else names
  | .root => slash :: names
  | .doubleRoot => slash :: slash :: names

/-- The last name of a path; empty if there is none. -/
def name (p : Path) : Text :=
  p.parts.getLast?.getD []

/-- The path without its last name. -/
def parent (p : Path) : Path :=
  { p with parts := p.parts.dropLast }

/-- The path with another last name. -/
def withName (p : Path) (name : Text) : Path :=
  { p with parts := p.parts.dropLast ++ [name] }

/-- The path `q` seen from `p`. -/
def append (p q : Path) : Path :=
  match q.anchor with
  | .relative => { p with parts := p.parts ++ q.parts }
  | _ => q

instance : Append Path := ⟨append⟩

def child (p : Path) (name : Text) : Path :=
  p ++ ofText name

/-- The names from the root that a path leads through, seen from a working directory. -/
def fromRoot (workingDirectory : List Text) (p : Path) : List Text :=
  match p.anchor with
  | .relative => workingDirectory ++ p.parts
  | _ => p.parts

/-- Takes `..` out of a path from the root. -/
def collapse (parts : List Text) : List Text :=
  parts.foldl (fun seen part => if part = upName then seen.dropLast else seen ++ [part]) []

/-- A path from the root with neither `..` nor a root of its own kind. -/
def resolve (workingDirectory : List Text) (p : Path) : Path where
  anchor := .root
  parts := collapse (fromRoot workingDirectory p)

/-- A path and all that contain it, the innermost first. -/
def selfAndParents (p : Path) : List Path :=
  (List.range (p.parts.length + 1)).reverse.map fun n => { p with parts := p.parts.take n }

end Path

end IssueMerge
