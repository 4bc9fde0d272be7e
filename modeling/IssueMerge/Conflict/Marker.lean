import IssueMerge.Text.Blank

/-!
The markers a failed merge leaves in a file, and how they lead from one part of a conflict to the
next. Blanks around a line do not matter.
-/

namespace IssueMerge

/-- What a line is to a conflict. -/
inductive LineKind where
  | blank
  | opening
  | ancestor
  | divider
  | closing
  | content
deriving DecidableEq

namespace LineKind

/-- The kind of a line. All markers but the divider may be followed by a label. -/
def ofLine (line : Text) : LineKind :=
  let t := line.trim
  if t = [] then blank
  else if (Text.ofString "<<<<<<<").isPrefixOf t then opening
  else if (Text.ofString ">>>>>>>").isPrefixOf t then closing
  else if (Text.ofString "|||||||").isPrefixOf t then ancestor
  else if t = Text.ofString "=======" then divider
  else content

end LineKind

/-- Where a line stands: outside all conflicts, or in one of the parts of a conflict. -/
inductive Place where
  | outside
  | head
  | ancestor
  | base
deriving DecidableEq

namespace Place

/-- The place behind a line. An opening marker starts a conflict wherever it stands; all other
markers count only where they can follow. -/
def after : Place → LineKind → Place
  | _, .opening => head
  | outside, _ => outside
  | _, .closing => outside
  | head, .ancestor => ancestor
  | head, .divider => base
  | ancestor, .divider => base
  | place, _ => place

end Place

end IssueMerge
