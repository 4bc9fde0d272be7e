import IssueMerge.Json.Parser
import IssueMerge.Number.Binary64
import IssueMerge.Text.Utf8

/-!
What scalars of YAML stand for. A plain one is `null`, a truth value, a number, a date, or else itself.
Truth values are only `true` and `false`, so `no` and `on` are texts unless a tag says otherwise. With
tags there are bytes as well.
-/

namespace IssueMerge

namespace Yaml

/-- What a scalar stands for. -/
inductive Scalar where
  | null
  | bool (b : Bool)
  | int (n : Int)
  | float (x : Binary64)
  | date
  | text (t : Text)
  | bytes (b : Bytes)
deriving DecidableEq

namespace Scalar

def isOneOf (words : List String) (t : Text) : Bool :=
  words.any fun w => Text.ofString w = t

/-- A sign in front of a number, and what follows. -/
def takeSign (t : Text) : Bool × Text :=
  match t with
  | c :: rest =>
    if c = CodePoint.ofChar '-' then (true, rest)
    else if c = CodePoint.ofChar '+' then (false, rest)
    else (false, t)
  | [] => (false, [])

/-- Low lines between digits do not count. -/
def withoutLowLines (t : Text) : Text :=
  t.filter (· ≠ CodePoint.ofChar '_')

/-- The number with the given digits, low lines left out; `none` unless all are digits of the base
and there is at least one character. -/
def digitsIn? (base : Nat) (t : Text) : Option (List Nat) :=
  if t = [] then none
  else
    (withoutLowLines t).mapM fun c =>
      (Numeral.hexValue? c).filter (· < base)

def valueIn (base : Nat) (digits : List Nat) : Nat :=
  digits.foldl (fun n d => base * n + d) 0

/-- The digits of an integer without its sign, and their base. -/
def integerDigits? (t : Text) : Option (Nat × List Nat) :=
  let based (start : String) (base : Nat) : Option (Nat × List Nat) :=
    ((Text.ofString start).isPrefixOf? t).bind fun rest => (digitsIn? base rest).map (base, ·)
  ((based "0b" 2).or (based "0x" 16)).or ((based "0o" 8).or ((digitsIn? 10 t).map (10, ·)))

def startsAsNumber (t : Text) : Bool :=
  t.head?.any fun c => c.isDigit || (Text.ofString "-+.").contains c

/-- Digits and low lines at the start of a text. -/
def takeDigits (t : Text) : Text × Text :=
  t.span fun c => c.isDigit || c = CodePoint.ofChar '_'

/-- The digits and the power of ten of a decimal number without its sign. Where nothing stands in
front of the point, an exponent needs a sign. -/
def decimal? (t : Text) : Option (Text × Int) :=
  let (whole, rest) := takeDigits t
  let pointed := rest.head? = some (CodePoint.ofChar '.')
  let (fraction, tail) := if pointed then takeDigits (rest.drop 1) else ([], rest)
  let (power, rest) := Json.takeExponent tail
  let signed := (tail.drop 1).head?.any fun c => (Text.ofString "+-").contains c
  let starts := whole.head?.any CodePoint.isDigit ||
    (whole = [] && pointed && fraction ≠ [] && (power.isNone || signed))
  let fraction := withoutLowLines fraction
  if starts && rest = [] && (pointed || power.isSome) then
    some (withoutLowLines whole ++ fraction, power.getD 0 - fraction.length)
  else
    none

/-- A floating-point number; `none` if the text has another form, and nothing within if it has no
digits. -/
def float? (t : Text) : Option (Option Binary64) :=
  let (negative, body) := takeSign t
  if isOneOf [".inf", ".Inf", ".INF"] body then some (some (.infinite negative))
  else if isOneOf [".nan", ".NaN", ".NAN"] t then some (some .nan)
  else (decimal? body).map fun (digits, power) =>
    if digits = [] then none
    else some (Binary64.ofDecimal negative (Numeral.value digits) power)

/-- A year, a month and a day, each of them with digits of the given numbers. -/
def dateParts? (t : Text) : Option (Nat × Nat × Nat × Text) := do
  let hyphen := CodePoint.ofChar '-'
  let (year, rest) := t.span CodePoint.isDigit
  let (month, rest') := (rest.drop 1).span CodePoint.isDigit
  let (day, rest'') := (rest'.drop 1).span CodePoint.isDigit
  if year.length = 4 ∧ rest.head? = some hyphen ∧ rest'.head? = some hyphen ∧
      month ≠ [] ∧ month.length ≤ 2 ∧ day ≠ [] ∧ day.length ≤ 2 then
    some (Numeral.value year, Numeral.value month, Numeral.value day, rest'')
  else
    none

def monthLength (year month : Nat) : Nat :=
  if month = 2 then
    if year % 4 = 0 ∧ (year % 100 ≠ 0 ∨ year % 400 = 0) then 29 else 28
  else if month ∈ [4, 6, 9, 11] then 30
  else 31

/-- Two numbers of two digits at most, the first with any, behind colons. -/
def isTime (t : Text) : Bool :=
  let (hour, rest) := t.span CodePoint.isDigit
  let colon := CodePoint.ofChar ':'
  let two (t : Text) : Bool :=
    t.head? = some colon && ((t.drop 1).takeWhile CodePoint.isDigit).length = 2
  let rest' := rest.drop 3
  let fraction := rest'.drop 3
  let fraction :=
    if fraction.head? = some (CodePoint.ofChar '.') then (fraction.drop 1).dropWhile CodePoint.isDigit
    else fraction
  let zone := fraction.dropWhile fun c => c.val = 0x20 || c.val = 0x09
  let offset := zone.drop 1
  let hours := offset.takeWhile CodePoint.isDigit
  let minutes := offset.drop hours.length
  let isOffset := zone.head?.any (fun c => (Text.ofString "+-").contains c) && 1 ≤ hours.length &&
    hours.length ≤ 2 && (minutes = [] || (two minutes && minutes.length = 3))
  1 ≤ hour.length && hour.length ≤ 2 && two rest && two rest' &&
    (zone = [] && fraction = [] || zone = Text.ofString "Z" || isOffset)

/-- Is the text a date, or a date and a time? -/
def isDate (t : Text) : Bool :=
  match dateParts? t with
  | none => false
  | some (_, _, _, []) => t.length = 10
  | some (_, _, _, c :: rest) =>
    if c = CodePoint.ofChar 'T' ∨ c = CodePoint.ofChar 't' then isTime rest
    else (c.val = 0x20 || c.val = 0x09) && isTime (rest.dropWhile fun c => c.val = 0x20 || c.val = 0x09)

def isDay (t : Text) : Bool :=
  match dateParts? t with
  | none => false
  | some (year, month, day, _) =>
    1 ≤ year && 1 ≤ month && month ≤ 12 && 1 ≤ day && day ≤ monthLength year month

/-- An integer; `none` if the text has another form, and nothing within if it has no value. -/
def integer? (t : Text) : Option (Option Int) :=
  let (negative, body) := takeSign t
  (integerDigits? body).map fun (base, digits) =>
    if digits = [] ∨ (base = 10 ∧ Numeral.maxDigits < digits.length) then none
    else some (if negative then -(valueIn base digits : Int) else valueIn base digits)

/-- What a plain scalar stands for; `none` if it has the form of a value that does not exist. -/
def ofPlain (t : Text) : Option Scalar :=
  if isOneOf ["", "~", "null", "Null", "NULL"] t then some .null
  else if isOneOf ["true", "True", "TRUE"] t then some (.bool true)
  else if isOneOf ["false", "False", "FALSE"] t then some (.bool false)
  else if t = Text.ofString "=" then none
  else if !startsAsNumber t then some (.text t)
  else
    match float? t, integer? t with
    | some x, _ => x.map .float
    | none, some n => n.map .int
    | none, none =>
      if isDate t then if isDay t then some .date else none
      else some (.text t)

/-- The truth value that a word stands for where a tag asks for one. -/
def truth? (t : Text) : Option Bool :=
  let t := t.map fun c =>
    if 'A'.toNat ≤ c.val ∧ c.val ≤ 'Z'.toNat then (CodePoint.ofNat? (c.val + 0x20)).getD c else c
  if isOneOf ["yes", "y", "true", "on"] t then some true
  else if isOneOf ["no", "n", "false", "off"] t then some false
  else none

/-- Six bits, as a character stands for them. -/
def sixBits? (c : CodePoint) : Option Nat :=
  ((Text.ofString "ABCDEFGHIJKLMNOPQRSTUVWXYZabcdefghijklmnopqrstuvwxyz0123456789+/").findIdx? (· = c))

/-- The bytes in the rest of a text that is read six bits at a time, when so many of four characters are
taken and the last of them has left some bits. Other characters do not count; `none` if the text ends
within four characters. -/
def bytesFrom : (taken left pads : Nat) → Text → Option Bytes
  | taken, _, _, [] => if taken = 0 then some [] else none
  | taken, left, pads, c :: rest =>
    if c = CodePoint.ofChar '=' then
      if 2 ≤ taken ∧ 3 ≤ taken + pads then some []
      else bytesFrom taken left (if 2 ≤ taken then pads + 1 else pads) rest
    else
      match sixBits? c, taken with
      | none, _ => bytesFrom taken left pads rest
      | some bits, 0 => bytesFrom 1 bits 0 rest
      | some bits, 1 => (bytesFrom 2 (bits % 16) 0 rest).map (UInt8.ofNat (left * 4 + bits / 16) :: ·)
      | some bits, 2 => (bytesFrom 3 (bits % 4) 0 rest).map (UInt8.ofNat (left * 16 + bits / 4) :: ·)
      | some bits, _ => (bytesFrom 0 0 0 rest).map (UInt8.ofNat (left * 64 + bits) :: ·)

/-- The bytes that a text of ASCII characters stands for. -/
def bytes? (t : Text) : Option Bytes :=
  if t.all (·.val < 0x80) then bytesFrom 0 0 0 t else none

end Scalar

end Yaml

end IssueMerge
