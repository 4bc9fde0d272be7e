import IssueMerge.Text.Numeral
import IssueMerge.Text.Printable

/-!
Quoted names in messages. A name stands between single quotes, or between double quotes when it
holds a single quote and no double one. The quote in use, the backslash and characters without a
printed form are escaped.
-/

namespace IssueMerge

namespace Text

/-- The written form of one character of a quoted name. -/
def quotedForm (quote c : CodePoint) : Text :=
  let backslash : CodePoint := CodePoint.ofChar '\\'
  if c = quote ∨ c = backslash then [backslash, c]
  else if c = CodePoint.ofChar '\n' then "\\n"
  else if c = CodePoint.ofChar '\r' then "\\r"
  else if c = CodePoint.ofChar '\t' then "\\t"
  else if c.isPrintable then [c]
  else if c.val < 0x100 then "\\x" ++ Numeral.hex 2 c.val
  else if c.val < 0x10000 then "\\u" ++ Numeral.hex 4 c.val
  else "\\U" ++ Numeral.hex 8 c.val

def quoted (name : Text) : Text :=
  let single : CodePoint := CodePoint.ofChar '\''
  let double : CodePoint := CodePoint.ofChar '"'
  let quote := if single ∈ name ∧ double ∉ name then double else single
  quote :: name.flatMap (quotedForm quote) ++ [quote]

end Text

end IssueMerge
