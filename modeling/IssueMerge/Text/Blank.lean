import IssueMerge.Text.CodePoint

/-!
Blanks: the characters that may surround a line or a setting without being part of it. They are
the characters with the white space property and the four information separators `0x1C` to `0x1F`.
-/

namespace IssueMerge

namespace CodePoint

/-- Closed ranges of blanks, ascending and apart. -/
def blankRanges : List (Nat × Nat) :=
  [(0x09, 0x0D), (0x1C, 0x20), (0x85, 0x85), (0xA0, 0xA0), (0x1680, 0x1680), (0x2000, 0x200A),
   (0x2028, 0x2029), (0x202F, 0x202F), (0x205F, 0x205F), (0x3000, 0x3000)]

def isBlank (c : CodePoint) : Bool :=
  c.within blankRanges

end CodePoint

namespace Text

def trim (t : Text) : Text :=
  ((t.dropWhile CodePoint.isBlank).reverse.dropWhile CodePoint.isBlank).reverse

end Text

end IssueMerge
