import IssueMerge.Issue.Record
import IssueMerge.Reference.Mention
import IssueMerge.Resolution.Plan

/-!
Rewriting records after ids have changed. References are the targets of dependency edges and the
mentions in free texts. All changes are made in one pass, so what was put in is not replaced again.
A function that changes nothing says so by `none`, so that the line a record stands on can be kept.
-/

namespace IssueMerge

namespace RemapTable

/-- The ids that are replaced. -/
def ids (table : RemapTable) : List Text :=
  table.map (·.1)

def replaceSpan (table : RemapTable) : Span → Text
  | .mention id => (find? table id).getD id
  | .other c => [c]

def rewriteText (table : RemapTable) (text : Text) : Text :=
  if text = [] ∨ table = [] then text
  else (Span.ofText (ids table) text).flatMap (replaceSpan table)

def rewriteEdge (table : RemapTable) (e : Edge) : Edge :=
  { e with target := (find? table e.target).getD e.target }

end RemapTable

namespace Record

/-- The record with its references rewritten, if that changes any. -/
def rewritten? (r : Record) (table : RemapTable) : Option Record :=
  let edges := r.edges.map (RemapTable.rewriteEdge table)
  let text (p : Prose) : Text := RemapTable.rewriteText table (r.prose p)
  if edges.map Edge.target = r.edges.map Edge.target ∧ Prose.all.all (fun p => text p = r.prose p)
  then none
  else some { r.withProse text with edges }

/-- The edge after its issue was renamed: it follows if it starts there. -/
def renameEdge (oldId newId : Text) (e : Edge) : Edge :=
  if e.issueId = some oldId then { e with raw := Json.setField "issue_id" (.str newId) e.raw } else e

/-- The record under a new id, if that is another one. -/
def renamed? (r : Record) (newId : Text) : Option Record :=
  if newId = r.id then none
  else some { r with id := newId, edges := r.edges.map (renameEdge r.id newId) }

end Record

end IssueMerge
