import IssueMerge.Json.Basic
import IssueMerge.Json.Parser
import IssueMerge.Json.Printer
import IssueMerge.Text.Blank

/-!
Issue records. A record is one JSON object; what is known of it is its id, its texts and its
dependency edges, and every other field is carried along. Writing a record starts from the fields
that were read, so nothing unknown is lost and the fields keep their order.
-/

namespace IssueMerge

/-- A dependency of one issue on another. -/
structure Edge where
  /-- The id of the issue depended on; empty when the edge names none. -/
  target : Text
  relation : Text
  raw : Json.Fields

/-- The free texts of a record, which may mention other issues. -/
inductive Prose where
  | description
  | design
  | acceptanceCriteria
  | notes
deriving DecidableEq

/-- An issue record. -/
structure Record where
  id : Text
  title : Text := []
  description : Text := []
  design : Text := []
  acceptanceCriteria : Text := []
  notes : Text := []
  edges : List Edge := []
  raw : Json.Fields := []

/-- Why a line is no usable record. -/
inductive RecordError where
  | malformed (fault : Json.Fault) (location : Json.Location)
  | tooDeep
  | notObject (found : Json.Kind)
  | missingId
  | notText (field id : Text)
  | dependenciesNotList (id : Text)
  | dependencyNotObject (found : Json.Kind)
  | relationNotText
deriving DecidableEq

/-- Why a line cannot be read: it is no usable record, or it holds an integer that is too long,
which stops more than the reading of this line. -/
inductive LineError where
  | unusable (e : RecordError)
  | numeral (e : Numeral.TooLong)
deriving DecidableEq

def RecordError.message : RecordError → Text
  | .malformed fault location => "invalid JSON: " ++ fault.message ++ ": " ++ location.message
  | .tooDeep => "JSON nested too deeply"
  | .notObject found => "record must be a JSON object, got " ++ found.name
  | .missingId => "record is missing a string id"
  | .notText field id => field ++ " of " ++ id ++ " must be a string"
  | .dependenciesNotList id => "dependencies of " ++ id ++ " must be a list"
  | .dependencyNotObject found => "dependency must be an object, got " ++ found.name
  | .relationNotText => "dependency type must be a string"

namespace Json

/-- Writes a text into a field; an empty one only over a value that is there and not `null`. -/
def putText (name value : Text) (fields : Fields) : Fields :=
  if value ≠ [] ∨ (field? name fields).any (!·.isNull) then setField name (.str value) fields
  else fields

end Json

namespace Edge

/-- The issue the edge starts from, if it says so. -/
def issueId (e : Edge) : Option Text :=
  match Json.field? "issue_id" e.raw with
  | some (.str s) => some s
  | _ => none

/-- The field that holds the relation: `relation_type` where only that is there. -/
def relationName (fields : Json.Fields) : Text :=
  if Json.hasField "relation_type" fields ∧ ¬ Json.hasField "type" fields then "relation_type"
  else "type"

def toFields (e : Edge) : Json.Fields :=
  let fields :=
    if e.target ≠ [] then Json.setField "depends_on_id" (.str e.target) e.raw else e.raw
  Json.putText (relationName fields) e.relation fields

def ofJson : Json → Except RecordError Edge
  | .obj fields =>
    let target : Text :=
      match Json.field? "depends_on_id" fields with
      | some (.str s) => s
      | _ => []
    match (Json.field? "type" fields).or (Json.field? "relation_type" fields) with
    | none => .ok ⟨target, [], fields⟩
    | some .null => .ok ⟨target, [], fields⟩
    | some (.str relation) => .ok ⟨target, relation, fields⟩
    | some _ => .error .relationNotText
  | v => .error (.dependencyNotObject v.kind)

end Edge

namespace Prose

def name : Prose → Text
  | description => "description"
  | design => "design"
  | acceptanceCriteria => "acceptance_criteria"
  | notes => "notes"

/-- All free texts, in the order in which they are read and written. -/
def all : List Prose :=
  [description, design, acceptanceCriteria, notes]

end Prose

namespace Record

def prose (r : Record) : Prose → Text
  | .description => r.description
  | .design => r.design
  | .acceptanceCriteria => r.acceptanceCriteria
  | .notes => r.notes

/-- The record with other free texts. -/
def withProse (r : Record) (text : Prose → Text) : Record :=
  { r with
    description := text .description
    design := text .design
    acceptanceCriteria := text .acceptanceCriteria
    notes := text .notes }

/-- The fields of the record, in the order in which they were read. Known fields that were absent
are there only if they are not empty. -/
def toFields (r : Record) : Json.Fields :=
  let fields := Json.setField "id" (.str r.id) r.raw
  let fields := Json.putText "title" r.title fields
  let fields := Prose.all.foldl (fun fields p => Json.putText p.name (r.prose p) fields) fields
  if Json.hasField "dependencies" fields ∨ r.edges ≠ [] then
    Json.setField "dependencies" (.arr (r.edges.map fun e => .obj e.toFields)) fields
  else
    fields

/-- The line of a record. There is one however deep its fields nest. -/
def toLine (r : Record) : Text :=
  Json.compact (.obj r.toFields)

/-- Reads a text that may be absent or `null`. -/
def readText (id name : Text) (fields : Json.Fields) : Except RecordError Text :=
  match Json.field? name fields with
  | none => .ok []
  | some .null => .ok []
  | some (.str s) => .ok s
  | some _ => .error (.notText name id)

/-- Reads the dependency edges, which may be absent or `null`. -/
def readEdges (id : Text) (fields : Json.Fields) : Except RecordError (List Edge) :=
  match Json.field? "dependencies" fields with
  | none => .ok []
  | some .null => .ok []
  | some (.arr items) => items.mapM Edge.ofJson
  | some _ => .error (.dependenciesNotList id)

/-- Reads the id, which must be there and not empty. -/
def readId (fields : Json.Fields) : Except RecordError Text :=
  match Json.field? "id" fields with
  | some (.str id) => if id = [] then .error .missingId else .ok id
  | _ => .error .missingId

def ofJson : Json → Except RecordError Record
  | .obj fields => do
    let id ← readId fields
    let title ← readText id "title" fields
    let description ← readText id (Prose.name .description) fields
    let design ← readText id (Prose.name .design) fields
    let acceptanceCriteria ← readText id (Prose.name .acceptanceCriteria) fields
    let notes ← readText id (Prose.name .notes) fields
    let edges ← readEdges id fields
    .ok { id, title, description, design, acceptanceCriteria, notes, edges, raw := fields }
  | v => .error (.notObject v.kind)

def parse (line : Text) : Except LineError Record :=
  match Json.parse line with
  | .ok v => (ofJson v).mapError .unusable
  | .error (.malformed fault location) => .error (.unusable (.malformed fault location))
  | .error .tooDeep => .error (.unusable .tooDeep)
  | .error (.numeral e) => .error (.numeral e)

/-- The record on a line with blanks around it, if the line is a usable one. -/
def ofLine? (line : Text) : Except Numeral.TooLong (Option Record) :=
  match parse line.trim with
  | .ok r => .ok (some r)
  | .error (.unusable _) => .ok none
  | .error (.numeral e) => .error e

/-- The records among some lines; all other lines are passed over. -/
def ofLines : List Text → Except Numeral.TooLong (List Record)
  | [] => .ok []
  | line :: rest => do
    let r ← ofLine? line
    let rs ← ofLines rest
    .ok (r.toList ++ rs)

end Record

end IssueMerge
