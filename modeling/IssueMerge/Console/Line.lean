import IssueMerge.Console.Markup
import IssueMerge.Text.Lines
import IssueMerge.Text.Utf8
import IssueMerge.Text.Width

/-!
What is printed on a console without colours: marked up texts, with tabs as blanks and without the
characters that would move or ring the console.
-/

namespace IssueMerge

namespace Console

/-- Tab stops are this many columns apart. -/
def tabStop : Nat := 8

/-- Bell, backspace, vertical tab, form feed and carriage return are not printed. -/
def isDropped (c : CodePoint) : Bool :=
  c.val == 0x07 || c.val == 0x08 || c.val == 0x0B || c.val == 0x0C || c.val == 0x0D

/-- Writes every tab as blanks up to the next tab stop, from the given column on. -/
def expandTabs (column : Nat) : Text → Text
  | [] => []
  | c :: t =>
    if c = CodePoint.ofChar '\t' then
      let blanks := tabStop - column % tabStop
      List.replicate blanks (CodePoint.ofChar ' ') ++ expandTabs (column + blanks) t
    else if c = .lineFeed then
      c :: expandTabs 0 t
    else
      c :: expandTabs (column + c.width) t

/-- What is printed for a marked up text, which ends its line. -/
def line (markup : Text) : Text :=
  expandTabs 0 ((Markup.shown markup).filter (!isDropped ·)) ++ [.lineFeed]

/-- Prints texts one after the other: what appears on the console, and why it ends early if one of
them has no encoded form. -/
def print : List Text → Text × Option Utf8.Unencodable
  | [] => ([], none)
  | t :: rest =>
    match Utf8.encode t with
    | .error e => ([], some e)
    | .ok _ => (t ++ (print rest).1, (print rest).2)

end Console

end IssueMerge
