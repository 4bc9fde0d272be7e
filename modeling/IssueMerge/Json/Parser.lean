import IssueMerge.Json.Basic
import IssueMerge.Text.Lines
import IssueMerge.Text.Numeral

/-!
Reading JSON. Beyond the standard, `NaN`, `Infinity` and `-Infinity` are numbers and an escaped
surrogate without a partner stands for itself. Nesting and the length of integers are limited. The
limit of nesting stands for the stack that a value is read on. It is the same wherever one is read: what
else is on the stack is left out. A refusal says what was wrong first and where.
-/

namespace IssueMerge

namespace Json

/-- What is wrong with a text that is no JSON. -/
inductive Fault where
  | value
  | name
  | colon
  | comma
  | unterminated
  | control
  | escape
  | unicodeEscape
  | extra
  | byteOrderMark
deriving DecidableEq

/-- A place in a text: lines and columns count from 1, the offset from 0. -/
structure Location where
  line : Nat
  column : Nat
  offset : Nat
deriving DecidableEq

/-- Why a text was refused. -/
inductive ParseError where
  | malformed (fault : Fault) (location : Location)
  | tooDeep
  | numeral (e : Numeral.TooLong)
deriving DecidableEq

/-- How deep a value may nest and how many digits an integer may have. -/
structure Limits where
  depth : Nat := 1000
  digits : Nat := Numeral.maxDigits

/-- The reason to stop reading; a fault comes with the text from its place on. -/
inductive Stop where
  | fault (fault : Fault) (rest : Text)
  | tooDeep
  | numeral (e : Numeral.TooLong)
deriving DecidableEq

/-- A reader takes a value off the front of a text. -/
abbrev Reader (α : Type) := Text → Except Stop (α × Text)

/-- Space, tab, line feed and carriage return may stand between tokens. -/
def isSpace (c : CodePoint) : Bool :=
  c.val == 0x20 || c.val == 0x09 || c.val == 0x0A || c.val == 0x0D

def skipSpace (t : Text) : Text :=
  t.dropWhile isSpace

/-- The character that a backslash and a letter stand for. -/
def unescape? (letter : CodePoint) : Option CodePoint :=
  ([('"', '"'), ('\\', '\\'), ('/', '/'), ('b', '\x08'), ('f', '\x0C'), ('n', '\n'), ('r', '\r'),
    ('t', '\t')] : List (Char × Char)).findSome? fun p =>
      if CodePoint.ofChar p.1 = letter then some (CodePoint.ofChar p.2) else none

def hexUnit? (a b c d : CodePoint) : Option CodePoint := do
  let a ← Numeral.hexValue? a
  let b ← Numeral.hexValue? b
  let c ← Numeral.hexValue? c
  let d ← Numeral.hexValue? d
  CodePoint.ofNat? (((a * 16 + b) * 16 + c) * 16 + d)

/-- The code point that a pair of surrogates stands for. -/
def joinSurrogates? (high low : CodePoint) : Option CodePoint :=
  if 0xD800 ≤ high.val ∧ high.val ≤ 0xDBFF ∧ 0xDC00 ≤ low.val ∧ low.val ≤ 0xDFFF then
    CodePoint.ofNat? (0x10000 + (high.val - 0xD800) * 0x400 + (low.val - 0xDC00))
  else
    none

/-- A character of a string as it was read: for itself, or as four hexadecimal digits. -/
structure Piece where
  code : CodePoint
  numeric : Bool
deriving DecidableEq

/-- Puts a piece in front of others; two halves of a numeric pair become one character. -/
def Piece.attach (p : Piece) : List Piece → List Piece
  | [] => [p]
  | q :: rest =>
    if p.numeric ∧ q.numeric then
      match joinSurrogates? p.code q.code with
      | some joined => ⟨joined, false⟩ :: rest
      | none => p :: q :: rest
    else
      p :: q :: rest

/-- The text that the pieces of a string stand for. -/
def Piece.text (pieces : List Piece) : Text :=
  (pieces.foldr Piece.attach []).map Piece.code

/-- Puts a piece in front of those that were read. -/
def Piece.before (p : Piece) (r : List Piece × Text) : List Piece × Text :=
  (p :: r.1, r.2)

/-- Reads the pieces of a string behind its opening quote. `opening` is the text from the quote
on. Four hexadecimal digits must not end the text. -/
def pieces (opening : Text) : Reader (List Piece)
  | [] => .error (.fault .unterminated opening)
  | c :: r =>
    if c = CodePoint.ofChar '"' then
      .ok ([], r)
    else if c = CodePoint.ofChar '\\' then
      match r with
      | [] => .error (.fault .unterminated opening)
      | e :: r₁ =>
        if e = CodePoint.ofChar 'u' then
          match r₁ with
          | h₁ :: h₂ :: h₃ :: h₄ :: r₂ =>
            match hexUnit? h₁ h₂ h₃ h₄, r₂.isEmpty with
            | some unit, false => (Piece.before ⟨unit, true⟩) <$> pieces opening r₂
            | _, _ => .error (.fault .unicodeEscape (e :: r₁))
          | _ => .error (.fault .unicodeEscape (e :: r₁))
        else
          match unescape? e with
          | some plain => (Piece.before ⟨plain, false⟩) <$> pieces opening r₁
          | none => .error (.fault .escape (c :: r))
    else if c.val < 0x20 then
      .error (.fault .control (c :: r))
    else
      (Piece.before ⟨c, false⟩) <$> pieces opening r

/-- Reads a string behind its opening quote; `opening` is as for `pieces`. -/
def stringBody (opening : Text) : Reader Text := fun t =>
  (fun p => (Piece.text p.1, p.2)) <$> pieces opening t

def takeDigits (t : Text) : Text × Text :=
  (t.takeWhile CodePoint.isDigit, t.dropWhile CodePoint.isDigit)

def takeSign (signs : List CodePoint) : Text → Option CodePoint × Text
  | c :: t => if c ∈ signs then (some c, t) else (none, c :: t)
  | [] => (none, [])

/-- The integer part of a number: a zero, or digits that start with no zero. -/
def takeWhole (t : Text) : Text × Text :=
  match t with
  | c :: rest => if c = CodePoint.ofChar '0' then ([c], rest) else takeDigits t
  | [] => ([], [])

def takeFraction (t : Text) : Text × Text :=
  match t with
  | point :: rest =>
    if point = CodePoint.ofChar '.' ∧ (takeDigits rest).1 ≠ [] then takeDigits rest else ([], t)
  | [] => ([], [])

/-- The exponent behind its mark, if there is one with at least one digit. -/
def takeExponent (t : Text) : Option Int × Text :=
  match t with
  | mark :: rest =>
    if mark = CodePoint.ofChar 'e' ∨ mark = CodePoint.ofChar 'E' then
      let (sign, rest) := takeSign [CodePoint.ofChar '+', CodePoint.ofChar '-'] rest
      let (digits, rest) := takeDigits rest
      let size : Int := Numeral.value digits
      if digits = [] then (none, t)
      else (some (if sign = some (CodePoint.ofChar '-') then -size else size), rest)
    else
      (none, t)
  | [] => (none, [])

/-- Reads a number. One with neither fraction nor exponent is an integer. -/
def number (maxDigits : Nat) : Reader Json := fun t =>
  let (sign, rest) := takeSign [CodePoint.ofChar '-'] t
  let (whole, rest) := takeWhole rest
  let (fraction, rest) := takeFraction rest
  let (exponent, rest) := takeExponent rest
  if whole = [] then
    .error (.fault .value t)
  else if fraction = [] ∧ exponent = none then
    match Numeral.read maxDigits whole with
    | .ok n => .ok (.int (if sign.isSome then -n else n), rest)
    | .error e => .error (.numeral e)
  else
    let digits := Numeral.value (whole ++ fraction)
    let power := exponent.getD 0 - fraction.length
    .ok (.float (Binary64.ofDecimal sign.isSome digits power), rest)

def words : List (Text × Json) :=
  [("null", null), ("true", bool true), ("false", bool false), ("NaN", float .nan),
   ("Infinity", float (.infinite false)), ("-Infinity", float (.infinite true))]

/-- Reads a word or a number. -/
def atom (maxDigits : Nat) : Reader Json := fun t =>
  match words.findSome? fun w => (w.1.isPrefixOf? t).map (w.2, ·) with
  | some r => .ok r
  | none => number maxDigits t

/-- Reads the items of an array, from the first or from behind a comma. Each takes at least one
character, so `n` is at least as large as the text is long: when `n` is 0 the text is empty. -/
def items (item : Reader Json) : Nat → Reader (List Json)
  | 0, t => .error (.fault .value t)
  | n + 1, t => do
    let (v, r) ← item t
    match skipSpace r with
    | [] => .error (.fault .comma [])
    | c :: r =>
      if c = CodePoint.ofChar ']' then
        .ok ([v], r)
      else if c = CodePoint.ofChar ',' then do
        let (vs, r) ← items item n (skipSpace r)
        .ok (v :: vs, r)
      else
        .error (.fault .comma (c :: r))

/-- Reads the name of a field and the colon behind it. -/
def memberName : Reader Text
  | [] => .error (.fault .name [])
  | c :: r =>
    if c = CodePoint.ofChar '"' then do
      let (name, r) ← stringBody (c :: r) r
      match skipSpace r with
      | [] => .error (.fault .colon [])
      | c :: r =>
        if c = CodePoint.ofChar ':' then .ok (name, skipSpace r)
        else .error (.fault .colon (c :: r))
    else
      .error (.fault .name (c :: r))

/-- Reads the fields of an object, from the first or from behind a comma. For `n` see `items`. -/
def members (item : Reader Json) : Nat → Reader Fields
  | 0, t => .error (.fault .name t)
  | n + 1, t => do
    let (name, r) ← memberName t
    let (v, r) ← item r
    match skipSpace r with
    | [] => .error (.fault .comma [])
    | c :: r =>
      if c = CodePoint.ofChar '}' then
        .ok ([(name, v)], r)
      else if c = CodePoint.ofChar ',' then do
        let (fields, r) ← members item n (skipSpace r)
        .ok ((name, v) :: fields, r)
      else
        .error (.fault .comma (c :: r))

def array (item : Reader Json) : Reader Json := fun t =>
  match skipSpace t with
  | c :: r =>
    if c = CodePoint.ofChar ']' then .ok (arr [], r)
    else (fun p => (arr p.1, p.2)) <$> items item (c :: r).length (c :: r)
  | [] => .error (.fault .value [])

def object (item : Reader Json) : Reader Json := fun t =>
  match skipSpace t with
  | c :: r =>
    if c = CodePoint.ofChar '}' then .ok (obj [], r)
    else (fun p => (obj (collect p.1), p.2)) <$> members item (c :: r).length (c :: r)
  | [] => .error (.fault .name [])

/-- Reads a value; `item` reads the values in it, and without it nothing may nest. -/
def valueWith (maxDigits : Nat) (item : Option (Reader Json)) : Reader Json
  | [] => .error (.fault .value [])
  | c :: r =>
    if c = CodePoint.ofChar '"' then
      (fun p => (str p.1, p.2)) <$> stringBody (c :: r) r
    else if c = CodePoint.ofChar '[' then
      match item with
      | some item => array item r
      | none => .error .tooDeep
    else if c = CodePoint.ofChar '{' then
      match item with
      | some item => object item r
      | none => .error .tooDeep
    else
      atom maxDigits (c :: r)

/-- Reads a value that nests at most `depth` deep. -/
def value (maxDigits : Nat) : (depth : Nat) → Reader Json
  | 0 => valueWith maxDigits none
  | depth + 1 => valueWith maxDigits (some (value maxDigits depth))

def document (limits : Limits) (t : Text) : Except Stop Json :=
  if t.head? = some ⟨0xFEFF, by decide⟩ then
    .error (.fault .byteOrderMark t)
  else do
    let (v, r) ← value limits.digits limits.depth (skipSpace t)
    match skipSpace r with
    | [] => .ok v
    | r => .error (.fault .extra r)

/-- The place where `rest`, the end of `whole`, begins. -/
def locate (whole rest : Text) : Location :=
  let before := whole.take (whole.length - rest.length)
  { line := before.count .lineFeed + 1
    column := (before.reverse.takeWhile (· ≠ .lineFeed)).length + 1
    offset := before.length }

def parseWith (limits : Limits) (t : Text) : Except ParseError Json :=
  match document limits t with
  | .ok v => .ok v
  | .error (.fault f rest) => .error (.malformed f (locate t rest))
  | .error .tooDeep => .error .tooDeep
  | .error (.numeral e) => .error (.numeral e)

/-- Reads a text as a JSON value within the usual limits. -/
def parse (t : Text) : Except ParseError Json :=
  parseWith {} t

def Fault.message : Fault → Text
  | .value => "Expecting value"
  | .name => "Expecting property name enclosed in double quotes"
  | .colon => "Expecting ':' delimiter"
  | .comma => "Expecting ',' delimiter"
  | .unterminated => "Unterminated string starting at"
  | .control => "Invalid control character at"
  | .escape => "Invalid \\escape"
  | .unicodeEscape => "Invalid \\uXXXX escape"
  | .extra => "Extra data"
  | .byteOrderMark => "Unexpected UTF-8 BOM (decode using utf-8-sig)"

def Location.message (l : Location) : Text :=
  "line " ++ Numeral.digits l.line ++ " column " ++ Numeral.digits l.column
    ++ " (char " ++ Numeral.digits l.offset ++ ")"

end Json

end IssueMerge
