import IssueMerge.Text.CodePoint

/-!
Decimal numerals. Numerals of more than 4300 digits are neither read nor written; leading zeros
count as digits and a sign does not. Main statement: a written numeral reads back.
-/

namespace IssueMerge

namespace Numeral

/-- The longest numeral, in digits, that is read or written. -/
def maxDigits : Nat := 4300

/-- A numeral that is too long. -/
inductive TooLong where
  | toRead (digits : Nat)
  | toWrite
deriving DecidableEq

def value (t : Text) : Nat :=
  t.foldl (fun n c => 10 * n + c.digitValue) 0

def digits (n : Nat) : Text :=
  (Nat.toDigits 10 n).map CodePoint.ofChar

/-- The digits of a number behind its sign, if it is negative. -/
def signedDigits (n : Int) : Text :=
  if n < 0 then CodePoint.ofChar '-' :: digits n.natAbs else digits n.natAbs

/-- Reads a sequence of at most `limit` digits as a number. -/
def read (limit : Nat) (t : Text) : Except TooLong Nat :=
  if limit < t.length then .error (.toRead t.length) else .ok (value t)

def write (n : Int) : Except TooLong Text :=
  if maxDigits < (digits n.natAbs).length then .error .toWrite else .ok (signedDigits n)

/-- What is said of a numeral that is too long. -/
def TooLong.message : TooLong → Text
  | .toRead n =>
    "Exceeds the limit (" ++ digits maxDigits ++ " digits) for integer string conversion: value has "
      ++ digits n ++ " digits; use sys.set_int_max_str_digits() to increase the limit"
  | .toWrite =>
    "Exceeds the limit (" ++ digits maxDigits ++ " digits) for integer string conversion; "
      ++ "use sys.set_int_max_str_digits() to increase the limit"

/-- The digits of `n` in base 16, lower case, on at least `width` places. -/
def hex (width n : Nat) : Text :=
  let ds := (Nat.toDigits 16 n).map CodePoint.ofChar
  List.replicate (width - ds.length) (CodePoint.ofChar '0') ++ ds

def hexValue? (c : CodePoint) : Option Nat :=
  if 0x30 ≤ c.val ∧ c.val ≤ 0x39 then some (c.val - 0x30)
  else if 0x41 ≤ c.val ∧ c.val ≤ 0x46 then some (c.val - 0x37)
  else if 0x61 ≤ c.val ∧ c.val ≤ 0x66 then some (c.val - 0x57)
  else none

theorem value_map_ofChar (ds : List Char) (n : Nat) :
    (ds.map CodePoint.ofChar).foldl (fun n c => 10 * n + c.digitValue) n
      = Nat.ofDigitChars 10 ds n := by
  induction ds generalizing n with
  | nil => rfl
  | cons d ds ih =>
    simp only [List.map_cons, List.foldl_cons, Nat.ofDigitChars_cons]
    rw [ih]
    rfl

/-- The digits of a number read back as the number. -/
theorem value_digits (n : Nat) : value (digits n) = n := by
  rw [value, digits, value_map_ofChar]
  exact Nat.ofDigitChars_toDigits (by decide) (by decide)

end Numeral

end IssueMerge
