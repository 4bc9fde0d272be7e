import IssueMerge.Text.Blank
import IssueMerge.Text.Word

/-!
Mentions of ids in free text. A mention is a whole token: no word character and no hyphen stands next
to it, nor a point that a word character follows, so `bd-1` is mentioned in `see bd-1.` but neither
in `bd-10` nor in `bd-1.2`. At a place the ids are tried one after the other, longer ones first, and the
first that fits is mentioned there.
-/

namespace IssueMerge

namespace CodePoint

/-- Characters that tie what follows or precedes them to an id. -/
def isGlue (c : CodePoint) : Bool :=
  c.isWord || c == ofChar '-'

end CodePoint

namespace Mention

def mayStart (previous : Option CodePoint) : Bool :=
  !previous.any CodePoint.isGlue

def mayEnd : Text → Bool
  | [] => true
  | c :: rest =>
    !c.isGlue && !(c == CodePoint.ofChar '.' && rest.head?.any CodePoint.isWord)

/-- Is the id mentioned at the start of the text? -/
def isAt (text id : Text) : Bool :=
  id.isPrefixOf text && mayEnd (text.drop id.length)

/-- Longer ids are tried first, and those of one length in the order of their code points. -/
def triedBefore (a b : Text) : Bool :=
  b.length < a.length || (a.length == b.length && a.lexLE b)

/-- Puts an id in its place among ids in the order in which they are tried. -/
def insert (id : Text) : List Text → List Text
  | [] => [id]
  | other :: rest =>
    if triedBefore id other then id :: other :: rest else other :: insert id rest

/-- The ids in the order in which they are tried, each of them once. -/
def alternatives (ids : List Text) : List Text :=
  ids.eraseDups.foldr insert []

/-- The first of some alternatives that is mentioned at the start of a text that follows the given
character. -/
def at? (alternatives : List Text) (previous : Option CodePoint) (text : Text) : Option Text :=
  if mayStart previous then alternatives.find? (isAt text) else none

end Mention

/-- A piece of a text: a mention of an id, or a character that is part of none. -/
inductive Span where
  | mention (id : Text)
  | other (c : CodePoint)
deriving DecidableEq

namespace Span

def text : Span → Text
  | mention id => id
  | other c => [c]

/-- Cuts a text into mentions and other characters, from left to right. The first `skip` characters
belong to a mention that is accounted for, and `previous` stands in front of the text. An empty
mention takes no character, so the next one is passed over. -/
def cut (alternatives : List Text) :
    (skip : Nat) → (previous : Option CodePoint) → Text → List Span
  | _, previous, [] =>
    match Mention.at? alternatives previous [] with
    | some id => [mention id]
    | none => []
  | skip + 1, _, c :: rest => cut alternatives skip (some c) rest
  | 0, previous, c :: rest =>
    match Mention.at? alternatives previous (c :: rest) with
    | none => other c :: cut alternatives 0 (some c) rest
    | some [] => mention [] :: other c :: cut alternatives 0 (some c) rest
    | some (d :: id) => mention (d :: id) :: cut alternatives id.length (some c) rest

def ofText (ids : List Text) (text : Text) : List Span :=
  cut (Mention.alternatives ids) 0 none text

/-- The mentions among some pieces, with the places at which they start. -/
def mentions (start : Nat) : List Span → List (Nat × Text)
  | [] => []
  | mention id :: rest => (start, id) :: mentions (start + id.length) rest
  | other _ :: rest => mentions (start + 1) rest

end Span

end IssueMerge
