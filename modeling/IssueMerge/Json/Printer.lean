import IssueMerge.Json.Basic
import IssueMerge.Number.Shortest
import IssueMerge.Text.Numeral

/-!
Writing JSON on one line. Two ways to write strings are in use: records keep every character that
may stand for itself, reports keep to ASCII. Nesting is not limited here: the stack that a value is
written on is left out.
-/

namespace IssueMerge

namespace Json

/-- The letter that stands for a character behind a backslash. -/
def escapeLetter? (c : CodePoint) : Option CodePoint :=
  ([('"', '"'), ('\\', '\\'), ('\n', 'n'), ('\r', 'r'), ('\t', 't'), ('\x08', 'b'),
    ('\x0C', 'f')] : List (Char × Char)).findSome? fun p =>
      if CodePoint.ofChar p.1 = c then some (CodePoint.ofChar p.2) else none

def unitEscape (n : Nat) : Text :=
  "\\u" ++ Numeral.hex 4 n

/-- A character of a string in which only what must be escaped is. -/
def escapeMinimal (c : CodePoint) : Text :=
  match escapeLetter? c with
  | some letter => [CodePoint.ofChar '\\', letter]
  | none => if c.val < 0x20 then unitEscape c.val else [c]

/-- A character of a string that keeps to the printable part of ASCII; beyond 16 bits it becomes a
pair of surrogates. -/
def escapeAscii (c : CodePoint) : Text :=
  if c.val < 0x7F then escapeMinimal c
  else if c.val < 0x10000 then unitEscape c.val
  else unitEscape (0xD800 + (c.val - 0x10000) / 0x400) ++ unitEscape (0xDC00 + c.val % 0x400)

/-- A string between quotes. -/
def quote (escape : CodePoint → Text) (s : Text) : Text :=
  CodePoint.ofChar '"' :: s.flatMap escape ++ [CodePoint.ofChar '"']

/-- The layout of a finite number with the digits `0.ds` and the power `point` of ten: positional
from `0.0001` up to below `10 ^ 16`, with a fraction in any case, and otherwise with a signed
exponent of at least two digits. -/
def layoutDigits (ds : Text) (point : Int) : Text :=
  let zeros (n : Int) : Text := List.replicate n.toNat (CodePoint.ofChar '0')
  let size : Int := ds.length
  if -4 < point ∧ point ≤ 16 then
    if point ≤ 0 then "0." ++ zeros (-point) ++ ds
    else if size ≤ point then ds ++ zeros (point - size) ++ ".0"
    else ds.take point.toNat ++ "." ++ ds.drop point.toNat
  else
    let fraction : Text := if ds.length ≤ 1 then [] else "." ++ ds.drop 1
    let power := point - 1
    let sign : Text := if power < 0 then "-" else "+"
    let powerDigits := Numeral.digits power.natAbs
    ds.take 1 ++ fraction ++ "e" ++ sign ++ zeros (2 - powerDigits.length) ++ powerDigits

/-- The text of a floating-point number: the fewest digits that read back as the number. -/
def floatText : Binary64 → Text
  | .nan => "NaN"
  | .infinite negative => if negative then "-Infinity" else "Infinity"
  | .finite negative significand exponent =>
    let sign : Text := if negative then "-" else []
    if significand = 0 then
      sign ++ "0.0"
    else
      let d := Shortest.select significand exponent
      let ds := Numeral.digits d.digits
      let kept := (ds.reverse.dropWhile (· = CodePoint.ofChar '0')).reverse
      sign ++ layoutDigits kept (ds.length + d.exponent)

mutual

/-- The text of a value, without any space; `escape` writes the characters of strings. -/
def print (escape : CodePoint → Text) : Json → Text
  | .null => "null"
  | .bool true => "true"
  | .bool false => "false"
  | .int n => Numeral.signedDigits n
  | .float x => floatText x
  | .str s => quote escape s
  | .arr items => "[" ++ Text.joinWith "," (printItems escape items) ++ "]"
  | .obj fields => "\x7b" ++ Text.joinWith "," (printFields escape fields) ++ "\x7d"

def printItems (escape : CodePoint → Text) : List Json → List Text
  | [] => []
  | v :: rest => print escape v :: printItems escape rest

def printFields (escape : CodePoint → Text) : List (Text × Json) → List Text
  | [] => []
  | (name, v) :: rest => (quote escape name ++ ":" ++ print escape v) :: printFields escape rest

end

def compact (v : Json) : Text :=
  print escapeMinimal v

end Json

end IssueMerge
