import IssueMerge.Text.CodePoint

/-!
Markup of texts that are shown on a console. A tag in brackets, such as `[cyan]` or `[/cyan]`, sets a
colour and is not shown. Backslashes in front of a tag count in pairs, and an odd one makes the tag
a text like any other.
-/

namespace IssueMerge

namespace Markup

def backslash : CodePoint := CodePoint.ofChar '\\'
def openBracket : CodePoint := CodePoint.ofChar '['
def closeBracket : CodePoint := CodePoint.ofChar ']'

/-- What a tag may start with after its bracket: a small letter or one of `#`, `/` and `@`. -/
def startsTag (c : CodePoint) : Bool :=
  (0x61 ≤ c.val && c.val ≤ 0x7A) || c.val == 0x23 || c.val == 0x2F || c.val == 0x40

/-- The text up to the first closing bracket; `none` if an opening one or the end comes first. -/
def throughBracket? : Text → Option Text
  | [] => none
  | c :: t =>
    if c = closeBracket then some [c]
    else if c = openBracket then none
    else (throughBracket? t).map (c :: ·)

def tag? : Text → Option Text
  | b :: c :: t =>
    if b = openBracket ∧ startsTag c then (throughBracket? t).map fun rest => b :: c :: rest
    else none
  | _ => none

/-- A piece of a marked up text. -/
inductive Piece where
  | plain (text : Text)
  /-- A tag and how many backslashes stand in front of it. -/
  | tag (backslashes : Nat) (text : Text)
deriving DecidableEq

/-- The pieces with a character that is in no tag in front of them. -/
def Piece.consChar (c : CodePoint) : List Piece → List Piece
  | .plain text :: rest => .plain (c :: text) :: rest
  | .tag backslashes text :: rest =>
    if c = backslash then .tag (backslashes + 1) text :: rest
    else .plain [c] :: .tag backslashes text :: rest
  | [] => [.plain [c]]

/-- The pieces of what follows the next `skip` characters, which belong to a tag. -/
def Piece.ofTextAfter : (skip : Nat) → Text → List Piece
  | _, [] => []
  | skip + 1, _ :: t => Piece.ofTextAfter skip t
  | 0, c :: t =>
    match tag? (c :: t) with
    | some text => .tag 0 text :: Piece.ofTextAfter (text.length - 1) t
    | none => Piece.consChar c (Piece.ofTextAfter 0 t)

def Piece.ofText (markup : Text) : List Piece :=
  Piece.ofTextAfter 0 markup

/-- A piece written so that its tag is shown. -/
def Piece.escape : Piece → Text
  | .plain text => text
  | .tag backslashes text => List.replicate (2 * backslashes + 1) backslash ++ text

/-- Doubles a backslash that ends a text alone, so that it does not act on a tag that follows. -/
def guardEnd (t : Text) : Text :=
  if t.getLast? = some backslash ∧ t.dropLast.getLast? ≠ some backslash then t ++ [backslash] else t

/-- The markup that shows a text. -/
def escape (t : Text) : Text :=
  guardEnd ((Piece.ofText t).flatMap Piece.escape)

/-- A backslash in front of an opening bracket is not shown. -/
def dropEscapes : Text → Text
  | [] => []
  | [c] => [c]
  | c :: d :: t =>
    if c = backslash ∧ d = openBracket then dropEscapes (d :: t) else c :: dropEscapes (d :: t)

def Piece.shown : Piece → Text
  | .plain text => dropEscapes text
  | .tag backslashes text =>
    List.replicate (backslashes / 2) backslash ++ (if backslashes % 2 = 1 then text else [])

/-- What is shown of a marked up text where there are no colours. -/
def shown (markup : Text) : Text :=
  (Piece.ofText markup).flatMap Piece.shown

end Markup

end IssueMerge
