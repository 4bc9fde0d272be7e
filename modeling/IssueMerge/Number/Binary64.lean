/-!
Binary numbers of double precision, and the one nearest to a decimal number. All arithmetic is
exact.
-/

namespace IssueMerge

/-- A binary number of double precision; a finite one is `significand * 2 ^ exponent`, with a
significand below `2 ^ 53`. -/
inductive Binary64 where
  | nan
  | infinite (negative : Bool)
  | finite (negative : Bool) (significand : Nat) (exponent : Int)
deriving DecidableEq

namespace Binary64

/-- `2 ^ k`. -/
def twoTo (k : Nat) : Nat :=
  Nat.pow 2 k

/-- `10 ^ k`. -/
def tenTo (k : Nat) : Nat :=
  Nat.pow 10 k

/-- The exponent of the smallest positive number. -/
def leastExponent : Int := -1074

/-- The exponent of the largest numbers. -/
def greatestExponent : Int := 971

/-- The integer nearest to `num / den`; of two equally near ones the even one. -/
def roundQuotient (num den : Nat) : Nat :=
  let q := num / den
  let r := num % den
  if 2 * r < den ∨ (2 * r = den ∧ q % 2 = 0) then q else q + 1

/-- The number nearest to `num / den`, for positive `num` and `den`. -/
def ofQuotient (negative : Bool) (num den : Nat) : Binary64 :=
  let above (e : Int) : Nat := num * twoTo (-e).toNat
  let below (e : Int) : Nat := den * twoTo e.toNat
  let guess := max ((num.log2 : Int) - (den.log2 : Int) - 53) leastExponent
  let exponent := if above guess / below guess < twoTo 53 then guess else guess + 1
  let significand := roundQuotient (above exponent) (below exponent)
  let (significand, exponent) :=
    if significand = twoTo 53 then (twoTo 52, exponent + 1) else (significand, exponent)
  if greatestExponent < exponent then infinite negative else finite negative significand exponent

/-- The number nearest to `digits * 10 ^ exponent`. Beyond the range of the type it is infinite or
zero; the first two cases below keep the powers of ten small. -/
def ofDecimal (negative : Bool) (digits : Nat) (exponent : Int) : Binary64 :=
  if digits = 0 then
    finite negative 0 leastExponent
  else
    let size := (Nat.toDigits 10 digits).length + exponent
    if 310 < size then infinite negative
    else if size < -330 then finite negative 0 leastExponent
    else ofQuotient negative (digits * tenTo exponent.toNat) (tenTo (-exponent).toNat)

end Binary64

end IssueMerge
