import IssueMerge.Text.Numeral

/-!
Tokens of YAML. Indentation becomes tokens that open and close block collections, and a scalar that
turns out to be a key gets its key token in front of it when the colon behind it is seen.
-/

namespace IssueMerge

namespace Yaml

/-- A place in a document; lines and columns count from 0. -/
structure Mark where
  line : Nat
  column : Nat
deriving DecidableEq

/-- A text that is no document, and where that was found. -/
structure Malformed where
  mark : Mark
deriving DecidableEq

inductive Token where
  | directive
  | documentStart
  | documentEnd
  | sequenceStart
  | mappingStart
  | blockEnd
  | flowSequenceStart
  | flowSequenceEnd
  | flowMappingStart
  | flowMappingEnd
  | entry
  | flowEntry
  | key
  | value
  | alias (name : Text)
  | anchor (name : Text)
  | tag (name : Text)
  | scalar (plain : Bool) (text : Text)
deriving DecidableEq

/-- The text that is left, and where it starts. -/
structure Cursor where
  rest : Text
  mark : Mark := ⟨0, 0⟩
  offset : Nat := 0

def isLineFeed (c : CodePoint) : Bool :=
  c.val == 0x0A || c.val == 0x85

def isBreak (c : CodePoint) : Bool :=
  isLineFeed c || c.val == 0x2028 || c.val == 0x2029

def isSpace (c : CodePoint) : Bool :=
  c.val == 0x20

def isSpaceOrTab (c : CodePoint) : Bool :=
  c.val == 0x20 || c.val == 0x09

/-- Does the text start with a space, a tab or a line feed, or is it empty? -/
def atGap (t : Text) : Bool :=
  !t.head?.any fun c => !(isSpaceOrTab c || isLineFeed c)

def atLineEnd (t : Text) : Bool :=
  !t.head?.any fun c => !isLineFeed c

/-- Is one of the characters of `s` the next? -/
def nextIn (s : String) (t : Text) : Bool :=
  t.head?.any fun c => (Text.ofString s).contains c

/-- Does the text start with `s`? -/
def startsWith (s : String) (t : Text) : Bool :=
  (Text.ofString s).isPrefixOf t

/-- Is this the start of a line that separates documents? -/
def atSeparator (t : Text) : Bool :=
  (startsWith "---" t || startsWith "..." t) && atGap (t.drop 3)

namespace Cursor

/-- Moves over characters that end no line. -/
def skip (c : Cursor) (n : Nat) : Cursor :=
  { rest := c.rest.drop n
    mark := { c.mark with column := c.mark.column + n }
    offset := c.offset + n }

/-- Moves over characters as long as they satisfy `p`. -/
def skipWhile (p : CodePoint → Bool) (c : Cursor) : Cursor :=
  c.skip (c.rest.takeWhile p).length

/-- The end of a line as it counts in a text, and the cursor behind it. -/
def lineBreak? (c : Cursor) : Option (CodePoint × Cursor) :=
  match c.rest with
  | [] => none
  | x :: rest =>
    if isBreak x then
      some (if isLineFeed x then CodePoint.ofChar '\n' else x,
        { rest, mark := ⟨c.mark.line + 1, 0⟩, offset := c.offset + 1 })
    else
      none

def malformed {α : Type} (c : Cursor) : Except Malformed α :=
  .error ⟨c.mark⟩

def skipIndent (column : Nat) (c : Cursor) : Cursor :=
  c.skip (min (c.rest.takeWhile isSpace).length (column - c.mark.column))

end Cursor

/-- Joins the parts of a scalar around line ends: a single line feed becomes a space, of several the
first is dropped. -/
def foldBreaks (first : CodePoint) (others : Text) : Text :=
  if first ≠ CodePoint.ofChar '\n' then first :: others
  else if others = [] then [CodePoint.ofChar ' ']
  else others

/-! ### Plain scalars -/

/-- The characters of a plain scalar up to the next gap or indicator. -/
def plainRun (inFlow : Bool) : Text → Text
  | [] => []
  | c :: rest =>
    let ends :=
      if c = CodePoint.ofChar ':' then atGap rest
      else if c = CodePoint.ofChar '?' then false
      else atGap [c] || (inFlow && nextIn ",[]\x7b\x7d" [c])
    if ends then [] else c :: plainRun inFlow rest

/-- The line ends, and the spaces after them, in front of the next line of a plain scalar; `none` if
a separator of documents comes first. -/
def plainBreaks : Nat → Cursor → Option (Text × Cursor)
  | 0, c => some ([], c)
  | n + 1, c =>
    if atSeparator c.rest then none
    else
      let c := c.skipWhile isSpace
      match c.lineBreak? with
      | none => some ([], c)
      | some (b, c) => (plainBreaks n c).map fun (bs, c) => (b :: bs, c)

/-- What separates the parts of a plain scalar; empty where the scalar ends. The flag says whether a
line ended. -/
def plainGap (c : Cursor) : Text × Bool × Cursor :=
  let spaces := c.rest.takeWhile isSpace
  let c := c.skip spaces.length
  match c.lineBreak? with
  | none => (spaces, false, c)
  | some (b, c) =>
    match plainBreaks c.rest.length c with
    | none => ([], true, c)
    | some (bs, c) => (foldBreaks b bs, true, c)

/-- Reads a plain scalar whose further lines start at `column` at least. The flag says whether a line
ended behind it. -/
def plainScalar (inFlow : Bool) (column : Nat) : Nat → Text → Bool → Cursor →
    Except Malformed (Text × Bool × Cursor)
  | 0, _, broke, c => .ok ([], broke, c)
  | n + 1, gap, broke, c =>
    let run := if nextIn "#" c.rest then [] else plainRun inFlow c.rest
    let behind := c.skip run.length
    if inFlow ∧ nextIn ":" behind.rest ∧ run ≠ [] ∧
        ¬ (atGap (behind.rest.drop 1) ∨ nextIn ",[]\x7b\x7d" (behind.rest.drop 1)) then
      behind.malformed
    else if run = [] then .ok ([], broke, c)
    else
      let (nextGap, ended, next) := plainGap behind
      if nextGap = [] ∨ nextIn "#" next.rest ∨ (!inFlow ∧ next.mark.column < column) then
        .ok (gap ++ run, ended, next)
      else do
        let (more, ended, c) ← plainScalar inFlow column n nextGap ended next
        .ok (gap ++ run ++ more, ended, c)

/-! ### Quoted scalars -/

/-- The character behind a backslash that stands for another. -/
def escapes : List (Char × Nat) :=
  [('0', 0), ('a', 7), ('b', 8), ('t', 9), ('\t', 9), ('n', 10), ('v', 11), ('f', 12), ('r', 13),
   ('e', 27), (' ', 32), ('"', 34), ('/', 47), ('\\', 92), ('N', 0x85), ('_', 0xA0), ('L', 0x2028),
   ('P', 0x2029)]

/-- How many digits follow the letter of a numeric escape. -/
def escapeWidth? (c : CodePoint) : Option Nat :=
  if c = CodePoint.ofChar 'x' then some 2
  else if c = CodePoint.ofChar 'u' then some 4
  else if c = CodePoint.ofChar 'U' then some 8
  else none

/-- The line ends, and the blanks after them, within a quoted scalar. -/
def quotedBreaks : Nat → Cursor → Except Malformed (Text × Cursor)
  | 0, c => .ok ([], c)
  | n + 1, c =>
    if atSeparator c.rest then c.malformed
    else
      let c := c.skipWhile isSpaceOrTab
      match c.lineBreak? with
      | none => .ok ([], c)
      | some (b, c) => do
        let (bs, c) ← quotedBreaks n c
        .ok (b :: bs, c)

def escaped (c : Cursor) : Except Malformed (Text × Cursor) :=
  match c.rest with
  | [] => c.malformed
  | x :: rest =>
    match escapes.find? fun p => CodePoint.ofChar p.1 = x, escapeWidth? x with
    | some (_, n), _ =>
      match CodePoint.ofNat? n with
      | some y => .ok ([y], c.skip 1)
      | none => c.malformed
    | none, some width =>
      let digits := (rest.take width).filterMap Numeral.hexValue?
      if digits.length = width then
        match CodePoint.ofNat? (digits.foldl (fun n d => 16 * n + d) 0) with
        | some y => .ok ([y], c.skip (1 + width))
        | none => c.malformed
      else
        c.malformed
    | none, none =>
      match c.lineBreak? with
      | some (_, c) => quotedBreaks c.rest.length c
      | none => c.malformed

def quotedScalar (double : Bool) : Nat → Cursor → Except Malformed (Text × Cursor)
  | 0, c => c.malformed
  | n + 1, c =>
    let quote : CodePoint := CodePoint.ofChar (if double then '"' else '\'')
    match c.rest with
    | [] => c.malformed
    | x :: rest =>
      if x = quote then
        if !double ∧ rest.head? = some quote then do
          let (t, c) ← quotedScalar double n (c.skip 2)
          .ok (quote :: t, c)
        else
          .ok ([], c.skip 1)
      else if double ∧ x = CodePoint.ofChar '\\' then do
        let (e, c) ← escaped (c.skip 1)
        let (t, c) ← quotedScalar double n c
        .ok (e ++ t, c)
      else if isSpaceOrTab x || isBreak x then
        let blanks := c.rest.takeWhile isSpaceOrTab
        let c := c.skip blanks.length
        match c.lineBreak? with
        | none => do
          let (t, c) ← quotedScalar double n c
          .ok (blanks ++ t, c)
        | some (b, c) => do
          let (bs, c) ← quotedBreaks c.rest.length c
          let (t, c) ← quotedScalar double n c
          .ok (foldBreaks b bs ++ t, c)
      else do
        let (t, c) ← quotedScalar double n (c.skip 1)
        .ok (x :: t, c)

/-! ### Block scalars -/

/-- What becomes of the line ends behind a block scalar. -/
inductive Chomping where
  | strip
  | clip
  | keep
deriving DecidableEq

/-- The signs behind the start of a block scalar: what becomes of its last line ends, and its
indentation. -/
def blockHeader (c : Cursor) : Except Malformed (Chomping × Option Nat × Cursor) :=
  let chomping (c : Cursor) : Chomping × Cursor :=
    if nextIn "+" c.rest then (.keep, c.skip 1)
    else if nextIn "-" c.rest then (.strip, c.skip 1)
    else (.clip, c)
  let indentation (c : Cursor) : Option Nat × Cursor :=
    match c.rest.head? with
    | some d => if d.isDigit then (some d.digitValue, c.skip 1) else (none, c)
    | none => (none, c)
  let (first, c₁) := chomping c
  let (width, c₂) := indentation c₁
  let (last, c₃) := if first = .clip then chomping c₂ else (first, c₂)
  if width = some 0 then c.malformed
  else if !atGap c₃.rest then c₃.malformed
  else
    let c := c₃.skipWhile isSpace
    let c := if nextIn "#" c.rest then c.skipWhile (!isLineFeed ·) else c
    if !atLineEnd c.rest then c.malformed
    else .ok (last, width, (c.lineBreak?.map (·.2)).getD c)

/-- The empty lines at the start of a block scalar, and the largest column in them. -/
def leadingBreaks : Nat → Nat → Cursor → Text × Nat × Cursor
  | 0, widest, c => ([], widest, c)
  | n + 1, widest, c =>
    let c := c.skipWhile isSpace
    let widest := max widest c.mark.column
    match c.lineBreak? with
    | none => ([], widest, c)
    | some (b, c) =>
      let (bs, widest, c) := leadingBreaks n widest c
      (b :: bs, widest, c)

/-- The empty lines within a block scalar of the given indentation. -/
def blockBreaks (column : Nat) : Nat → Cursor → Text × Cursor
  | 0, c => ([], c)
  | n + 1, c =>
    let c := c.skipIndent column
    match c.lineBreak? with
    | none => ([], c)
    | some (b, c) =>
      let (bs, c) := blockBreaks column n c
      (b :: bs, c)

/-- The lines of a block scalar. `breaks` are the empty lines in front of the next one. -/
def blockLines (folded : Bool) (chomping : Chomping) (column : Nat) (atRoot : Bool) :
    Nat → Text → Cursor → Text × Cursor
  | 0, _, c => ([], c)
  | n + 1, breaks, c =>
    if c.mark.column ≠ column ∨ c.rest = [] then
      (if chomping = .keep then breaks else [], c)
    else
      let solid := !nextIn " \t" c.rest
      let line := c.rest.takeWhile (!isLineFeed ·)
      let c := c.skip line.length
      let (ending, c) :=
        match c.lineBreak? with
        | some (b, c) => ([b], c)
        | none => (([] : Text), c)
      let (nextBreaks, c) := blockBreaks column c.rest.length c
      let stops := (atRoot && atSeparator c.rest) || c.mark.column ≠ column || c.rest = []
      if stops then
        let last := if chomping = .strip then [] else ending
        let kept := if chomping = .keep then nextBreaks else []
        (breaks ++ line ++ last ++ kept, c)
      else
        let joint :=
          if folded ∧ ending = [CodePoint.ofChar '\n'] ∧ solid ∧ !nextIn " \t" c.rest then
            if nextBreaks = [] then [CodePoint.ofChar ' '] else []
          else
            ending
        let (more, c) := blockLines folded chomping column atRoot n nextBreaks c
        (breaks ++ line ++ joint ++ more, c)

/-- Reads a block scalar behind its first sign. `indent` is the indentation of what it is part of. -/
def blockScalar (folded : Bool) (indent : Int) (c : Cursor) : Except Malformed (Text × Cursor) := do
  let (chomping, width, c) ← blockHeader c
  let least := (indent + 1).toNat
  match width with
  | some width =>
    let column := max least 1 + width - 1
    let (breaks, c) := blockBreaks column c.rest.length c
    .ok (blockLines folded chomping column (least = 0) c.rest.length breaks c)
  | none =>
    let (breaks, widest, c) := leadingBreaks c.rest.length 0 c
    .ok (blockLines folded chomping (max least widest) (least = 0) c.rest.length breaks c)

/-! ### Lexing -/

/-- A token that may turn out to be the start of a key. -/
structure PossibleKey where
  token : Nat
  required : Bool
  mark : Mark
  offset : Nat

/-- The state of lexing. There is one possible key for each level of flow collections, and one for
the block level; the innermost is the first. -/
structure Lexer where
  cursor : Cursor
  indent : Int := -1
  indents : List Int := []
  /-- For each flow collection that is open, whether it is a sequence. -/
  flow : List Bool := []
  keyAllowed : Bool := true
  keys : List (Option PossibleKey) := [none]
  tokens : List Token := []

namespace Lexer

def inFlow (l : Lexer) : Bool :=
  !l.flow.isEmpty

def malformed {α : Type} (l : Lexer) : Except Malformed α :=
  l.cursor.malformed

def emit (l : Lexer) (t : Token) : Lexer :=
  { l with tokens := l.tokens ++ [t] }

def insert (l : Lexer) (index : Nat) (t : Token) : Lexer :=
  { l with tokens := l.tokens.take index ++ t :: l.tokens.drop index }

/-- The longest key, in characters. -/
def maxKeyLength : Nat := 1024

/-- Forgets possible keys that a colon can no longer follow. -/
def dropStaleKeys (l : Lexer) : Except Malformed Lexer := do
  let isStale (k : PossibleKey) : Bool :=
    k.mark.line ≠ l.cursor.mark.line || maxKeyLength < l.cursor.offset - k.offset
  if l.keys.any fun k => k.any fun k => isStale k && k.required then
    l.malformed
  else
    .ok { l with keys := l.keys.map fun k => k.filter fun k => !isStale k }

def dropKey (l : Lexer) : Except Malformed Lexer :=
  match l.keys with
  | some k :: rest => if k.required then l.malformed else .ok { l with keys := none :: rest }
  | _ => .ok l

def noteKey (l : Lexer) : Except Malformed Lexer :=
  if l.keyAllowed then do
    let l ← l.dropKey
    let k : PossibleKey :=
      { token := l.tokens.length
        required := !l.inFlow && l.indent = l.cursor.mark.column
        mark := l.cursor.mark
        offset := l.cursor.offset }
    .ok { l with keys := some k :: l.keys.drop 1 }
  else
    .ok l

/-- Closes block collections that are indented more than `column`. -/
def unwind (column : Int) : List Int → Lexer → Lexer
  | [], l => l
  | outer :: rest, l =>
    if !l.inFlow && column < l.indent then
      unwind column rest { l with indent := outer, indents := rest, tokens := l.tokens ++ [.blockEnd] }
    else
      l

def unwindTo (l : Lexer) (column : Int) : Lexer :=
  unwind column l.indents l

/-- Opens a block collection in front of the token at `index`, unless one of this indentation is
open. -/
def openBlock (l : Lexer) (column : Nat) (index : Nat) (t : Token) : Lexer :=
  if l.indent < column then
    { l with indent := column, indents := l.indent :: l.indents }.insert index t
  else
    l

/-- Takes a token of `n` characters that is no scalar. -/
def take (l : Lexer) (n : Nat) (t : Token) : Lexer :=
  { l with cursor := l.cursor.skip n }.emit t

/-- Moves over blanks, comments and line ends to the next token. Tabs are blanks only in flow
collections. -/
def toNextToken : Nat → Lexer → Lexer
  | 0, l => l
  | n + 1, l =>
    let c := l.cursor.skipWhile fun x => isSpace x || (l.inFlow && isSpaceOrTab x)
    let c := if nextIn "#" c.rest then c.skipWhile (!isLineFeed ·) else c
    match c.lineBreak? with
    | none => { l with cursor := c }
    | some (_, c) => toNextToken n { l with cursor := c, keyAllowed := l.keyAllowed || !l.inFlow }

def separator (l : Lexer) (t : Token) : Except Malformed Lexer := do
  let l ← (l.unwindTo (-1)).dropKey
  .ok ({ l with keyAllowed := false }.take 3 t)

def directive (l : Lexer) : Except Malformed Lexer := do
  let l ← (l.unwindTo (-1)).dropKey
  .ok ({ l with keyAllowed := false, cursor := l.cursor.skipWhile (!isLineFeed ·) }.emit .directive)

def openFlow (l : Lexer) (isSequence : Bool) (t : Token) : Except Malformed Lexer := do
  let l ← l.noteKey
  .ok ({ l with flow := isSequence :: l.flow, keys := none :: l.keys, keyAllowed := true }.take 1 t)

def closeFlow (l : Lexer) (t : Token) : Except Malformed Lexer := do
  if !l.inFlow then
    l.malformed
  else
    let l ← l.dropKey
    .ok ({ l with flow := l.flow.drop 1, keys := l.keys.drop 1, keyAllowed := false }.take 1 t)

def flowEntry (l : Lexer) : Except Malformed Lexer := do
  let l ← l.dropKey
  .ok ({ l with keyAllowed := true }.take 1 .flowEntry)

/-- Takes a sign that starts an item or a key of a block collection. -/
def blockSign (l : Lexer) (opening t : Token) (keyAllowed : Bool) : Except Malformed Lexer := do
  if !l.inFlow && !l.keyAllowed then
    l.malformed
  else
    let l := if l.inFlow then l else l.openBlock l.cursor.mark.column l.tokens.length opening
    let l ← l.dropKey
    .ok ({ l with keyAllowed }.take 1 t)

def valueSign (l : Lexer) : Except Malformed Lexer :=
  match l.keys with
  | some k :: rest =>
    let l := { l with keys := none :: rest, keyAllowed := false }.insert k.token .key
    let l := if l.inFlow then l else l.openBlock k.mark.column k.token .mappingStart
    .ok (l.take 1 .value)
  | _ => l.blockSign .mappingStart .value (!l.inFlow)

def named (l : Lexer) (t : Text → Token) : Except Malformed Lexer := do
  let l ← l.noteKey
  let c := l.cursor.skip 1
  let name := c.rest.takeWhile fun x => !(atGap [x] || nextIn ",[]\x7b\x7d" [x])
  if name = [] then
    l.malformed
  else
    .ok ({ l with keyAllowed := false, cursor := c.skip name.length }.emit (t name))

def tag (l : Lexer) : Except Malformed Lexer := do
  let l ← l.noteKey
  let run := l.cursor.rest.takeWhile fun x => !atGap [x]
  let name :=
    if startsWith "!<" run then run.takeWhile (· ≠ CodePoint.ofChar '>') ++ [CodePoint.ofChar '>']
    else if l.inFlow then run.takeWhile fun x => !nextIn ",[]\x7b\x7d" [x]
    else run
  let c := l.cursor.skip name.length
  if atGap c.rest ∨ (l.inFlow ∧ nextIn "," c.rest) then
    .ok ({ l with keyAllowed := false, cursor := c }.emit (.tag name))
  else
    c.malformed

def block (l : Lexer) (folded : Bool) : Except Malformed Lexer := do
  let l ← { l with keyAllowed := true }.dropKey
  let (t, cursor) ← blockScalar folded l.indent (l.cursor.skip 1)
  .ok ({ l with cursor }.emit (.scalar false t))

def quoted (l : Lexer) (double : Bool) : Except Malformed Lexer := do
  let l ← l.noteKey
  let (t, cursor) ← quotedScalar double l.cursor.rest.length (l.cursor.skip 1)
  .ok ({ l with cursor, keyAllowed := false }.emit (.scalar false t))

def plain (l : Lexer) : Except Malformed Lexer := do
  let l ← l.noteKey
  let column := (l.indent + 1).toNat
  let (t, keyAllowed, cursor) ← plainScalar l.inFlow column l.cursor.rest.length [] false l.cursor
  .ok ({ l with cursor, keyAllowed }.emit (.scalar true t))

def atValueSign (l : Lexer) : Bool :=
  let gap := atGap (l.cursor.rest.drop 1)
  match l.flow with
  | [] => gap
  | true :: _ => gap
  | false :: _ => gap || l.tokens.getLast? ≠ some .value

def atPlain (l : Lexer) : Bool :=
  let t := l.cursor.rest
  let solid := !atGap (t.drop 1)
  if nextIn "-" t then solid
  else if nextIn ":" t then solid || (l.inFlow && !nextIn " \t" (t.drop 1))
  else if nextIn "?" t then solid && !l.inFlow
  else !nextIn ",[]\x7b\x7d#&*!|>'\"%@\x60" t && !atGap t

def token (l : Lexer) : Except Malformed Lexer :=
  let t := l.cursor.rest
  let behind := t.drop 1
  let atStart := l.cursor.mark.column = 0
  if atStart ∧ nextIn "%" t then l.directive
  else if atStart ∧ startsWith "---" t ∧ atGap (t.drop 3) then l.separator .documentStart
  else if atStart ∧ startsWith "..." t ∧ atGap (t.drop 3) then l.separator .documentEnd
  else if nextIn "[" t then l.openFlow true .flowSequenceStart
  else if nextIn "\x7b" t then l.openFlow false .flowMappingStart
  else if nextIn "]" t then l.closeFlow .flowSequenceEnd
  else if nextIn "\x7d" t then l.closeFlow .flowMappingEnd
  else if nextIn "," t then l.flowEntry
  else if nextIn "-" t ∧ atGap behind then l.blockSign .sequenceStart .entry true
  else if nextIn "?" t ∧ (l.inFlow ∨ atGap behind) then l.blockSign .mappingStart .key (!l.inFlow)
  else if nextIn ":" t ∧ l.atValueSign then l.valueSign
  else if nextIn "*" t then l.named .alias
  else if nextIn "&" t then l.named .anchor
  else if nextIn "!" t then l.tag
  else if nextIn "|" t ∧ !l.inFlow then l.block false
  else if nextIn ">" t ∧ !l.inFlow then l.block true
  else if nextIn "'" t then l.quoted false
  else if nextIn "\"" t then l.quoted true
  else if l.atPlain then l.plain
  else l.malformed

/-- Takes all tokens. Each takes at least one character. -/
def run : Nat → Lexer → Except Malformed (List Token)
  | 0, l => l.malformed
  | n + 1, l => do
    let l ← (toNextToken (l.cursor.rest.length + 1) l).dropStaleKeys
    let l := l.unwindTo l.cursor.mark.column
    if l.cursor.rest = [] then
      let l ← (l.unwindTo (-1)).dropKey
      .ok l.tokens
    else
      run n (← l.token)

end Lexer

def isAllowed (c : CodePoint) : Bool :=
  c.val == 0x09 || c.val == 0x0A || c.val == 0x0D || (0x20 ≤ c.val && c.val ≤ 0x7E) || c.val == 0x85
    || (0xA0 ≤ c.val && c.val ≤ 0xD7FF) || (0xE000 ≤ c.val && c.val ≤ 0xFFFD) || 0x10000 ≤ c.val

/-- The place of the first character that no document may hold. -/
def firstForbidden? (t : Text) : Option Mark :=
  let before := t.takeWhile isAllowed
  if before.length = t.length then none
  else some ⟨before.countP isBreak, (before.reverse.takeWhile (!isBreak ·)).length⟩

/-- The tokens of a text. A mark of the byte order in front of it does not count. -/
def tokens (t : Text) : Except Malformed (List Token) :=
  let t := if t.head? = some (CodePoint.ofChar '\ufeff') then t.drop 1 else t
  match firstForbidden? t with
  | some mark => .error ⟨mark⟩
  | none => Lexer.run (t.length + 1) { cursor := { rest := t } }

end Yaml

end IssueMerge
