import IssueMerge.Number.Binary64

/-!
The shortest decimal form of a binary number: of the decimals that read back as the number, one
with the fewest digits, and of those the nearest.
-/

namespace IssueMerge

namespace Shortest

open Binary64 (twoTo tenTo)

/-- `digits * 10 ^ exponent`. -/
structure Decimal where
  digits : Nat
  exponent : Int
deriving DecidableEq

/-- Compares `a * 10 ^ i` with `n * 2 ^ j`. -/
def compareScaled (a : Nat) (i : Int) (n : Nat) (j : Int) : Ordering :=
  compare (a * tenTo i.toNat * twoTo (-j).toNat) (n * twoTo j.toNat * tenTo (-i).toNat)

/-- Does the decimal read back as `significand * 2 ^ exponent`? It does between the midpoints to the
two neighbours, the midpoints included when the significand is even. Below a power of two the
neighbour is half as far away. -/
def readsBack (significand : Nat) (exponent : Int) (d : Decimal) : Bool :=
  let narrow := significand = twoTo 52 ∧ Binary64.leastExponent < exponent
  let low := if narrow then 4 * significand - 1 else 4 * significand - 2
  let high := 4 * significand + 2
  let atLow := compareScaled d.digits d.exponent low (exponent - 2)
  let atHigh := compareScaled d.digits d.exponent high (exponent - 2)
  let closed := significand % 2 == 0
  (atLow == .gt || (closed && atLow == .eq)) && (atHigh == .lt || (closed && atHigh == .eq))

/-- The least `k` with `significand * 2 ^ exponent < 10 ^ k`, for a positive significand. -/
def scale (significand : Nat) (exponent : Int) : Int :=
  let start := ((significand.log2 : Int) + exponent) * 30103 / 100000 - 1
  let fits (k : Int) : Bool := compareScaled 1 k significand exponent == .gt
  if fits start then start
  else if fits (start + 1) then start + 1
  else if fits (start + 2) then start + 2
  else start + 3

/-- The decimal with the given unit nearest to the number, if it or its neighbour reads back. -/
def onGrid? (significand : Nat) (exponent unit : Int) : Option Decimal :=
  let num := significand * twoTo exponent.toNat * tenTo (-unit).toNat
  let den := twoTo (-exponent).toNat * tenTo unit.toNat
  let lower : Decimal := ⟨num / den, unit⟩
  let upper : Decimal := ⟨num / den + 1, unit⟩
  match readsBack significand exponent lower, readsBack significand exponent upper with
  | false, false => none
  | true, false => some lower
  | false, true => some upper
  | true, true => some ⟨Binary64.roundQuotient num den, unit⟩

/-- The exact decimal value of `significand * 2 ^ exponent`. -/
def exact (significand : Nat) (exponent : Int) : Decimal :=
  if 0 ≤ exponent then ⟨significand * twoTo exponent.toNat, 0⟩
  else ⟨significand * Nat.pow 5 (-exponent).toNat, exponent⟩

/-- The shortest decimal that reads back as `significand * 2 ^ exponent`, for a positive
significand. It has at most seventeen digits. -/
def select (significand : Nat) (exponent : Int) : Decimal :=
  let k := scale significand exponent
  ((List.range' 1 17).findSome? fun (n : Nat) => onGrid? significand exponent (k - n)).getD
    (exact significand exponent)

end Shortest

end IssueMerge
