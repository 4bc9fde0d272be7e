import IssueMerge.Json.Printer

/-!
Writing JSON on many lines, in ASCII: every item and every field has a line of its own, indented
by two blanks more than what it is part of.
-/

namespace IssueMerge

namespace Json

/-- The line break in front of an item at the given depth. -/
def indentBreak (depth : Nat) : Text :=
  CodePoint.ofChar '\n' :: List.replicate (2 * depth) (CodePoint.ofChar ' ')

/-- Items on lines of their own between brackets; nothing stands between the brackets of an empty
sequence. -/
def block (opening closing : Text) (depth : Nat) (items : List Text) : Text :=
  if items.isEmpty then
    opening ++ closing
  else
    opening ++ indentBreak (depth + 1) ++ Text.joinWith ("," ++ indentBreak (depth + 1)) items
      ++ indentBreak depth ++ closing

mutual

/-- The text of a value that is part of `depth` others. -/
def indented (depth : Nat) : Json → Text
  | .arr items => block "[" "]" depth (indentedItems (depth + 1) items)
  | .obj fields => block "\x7b" "\x7d" depth (indentedFields (depth + 1) fields)
  | .null => print escapeAscii .null
  | .bool b => print escapeAscii (.bool b)
  | .int n => print escapeAscii (.int n)
  | .float x => print escapeAscii (.float x)
  | .str s => print escapeAscii (.str s)

def indentedItems (depth : Nat) : List Json → List Text
  | [] => []
  | v :: rest => indented depth v :: indentedItems depth rest

def indentedFields (depth : Nat) : List (Text × Json) → List Text
  | [] => []
  | (name, v) :: rest =>
    (quote escapeAscii name ++ ": " ++ indented depth v) :: indentedFields depth rest

end

end Json

end IssueMerge
