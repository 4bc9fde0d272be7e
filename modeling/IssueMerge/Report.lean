import IssueMerge.Conflict.Region
import IssueMerge.Resolution.Plan

/-!
Regions and resolutions as they are shown to other programs.
-/

namespace IssueMerge

/-- The fields that describe a region; of its records only the ids are shown. -/
def Region.toFields (r : Region) : Json.Fields :=
  [("line_start", .int r.openLine),
   ("line_end", .int r.closeLine),
   ("head_issues", .arr (r.headIds.map Json.str)),
   ("base_issues", .arr (r.baseIds.map Json.str))]

def Action.name : Action → Text
  | .keep => "keep"
  | .remap => "remap"

def Side.name : Side → Text
  | .head => "head"
  | .base => "base"

def Resolution.toFields (r : Resolution) : Json.Fields :=
  let ids : Json.Fields :=
    if r.isRemap then [("old_id", .str r.oldId), ("new_id", .str r.newId)]
    else [("issue_id", .str r.oldId)]
  ("action", .str r.action.name) :: ("reason", .str r.reason) :: ids

end IssueMerge
