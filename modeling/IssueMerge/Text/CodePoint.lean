/-!
Code points and texts. A text is a list of code points rather than a `String`, because an escaped
surrogate in a record stands for itself even when it has no partner.
-/

namespace IssueMerge

/-- A code point: a number below `0x110000`, unpaired surrogates included. -/
structure CodePoint where
  val : Nat
  val_lt : val < 0x110000 := by decide
deriving DecidableEq

/-- A text is a sequence of code points. -/
abbrev Text := List CodePoint

namespace CodePoint

theorem ext_val {a b : CodePoint} (h : a.val = b.val) : a = b := by
  cases a; cases b; simp_all

def ofChar (c : Char) : CodePoint where
  val := c.toNat
  val_lt := by
    have h := c.valid
    simp only [UInt32.isValidChar, Nat.isValidChar] at h
    simp only [Char.toNat]
    omega

instance : Coe Char CodePoint := ⟨ofChar⟩

instance : Inhabited CodePoint := ⟨ofChar '\x00'⟩

/-- The code point of a number, if there is one. -/
def ofNat? (n : Nat) : Option CodePoint :=
  if h : n < 0x110000 then some ⟨n, h⟩ else none

/-- Surrogates have no encoded form of their own. -/
def isSurrogate (c : CodePoint) : Bool :=
  0xD800 ≤ c.val && c.val ≤ 0xDFFF

/-- The ten digits `0` to `9`; digits of other scripts are not meant. -/
def isDigit (c : CodePoint) : Bool :=
  0x30 ≤ c.val && c.val ≤ 0x39

def digitValue (c : CodePoint) : Nat :=
  c.val - 0x30

/-- Membership in a table of closed ranges. -/
def within (ranges : List (Nat × Nat)) (c : CodePoint) : Bool :=
  ranges.any fun r => r.1 ≤ c.val && c.val ≤ r.2

end CodePoint

namespace Text

def ofString (s : String) : Text :=
  s.toList.map CodePoint.ofChar

instance : Coe String Text := ⟨ofString⟩

/-- Texts in the order of their code points. -/
def lexLE : Text → Text → Bool
  | [], _ => true
  | _ :: _, [] => false
  | a :: s, b :: t => a.val < b.val || (a.val == b.val && lexLE s t)

/-- The parts of a sequence of texts with a separator between neighbours. -/
def joinWith (separator : Text) : List Text → Text
  | [] => []
  | [t] => t
  | t :: rest => t ++ separator ++ joinWith separator rest

end Text

end IssueMerge
