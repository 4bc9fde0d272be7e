import IssueMerge.Text.Numeral

/-!
The byte form of texts, eight bits at a time. Unpaired surrogates have none; bytes that are no
byte form are refused with the place and the extent of the first fault.
-/

namespace IssueMerge

/-- The content of a file. -/
abbrev Bytes := List UInt8

namespace Utf8

/-- The bytes of a code point that is no surrogate: one to four, by its size. -/
def unit (c : CodePoint) : Bytes :=
  let n := c.val
  let lead (mark shift : Nat) : UInt8 := UInt8.ofNat (mark + n >>> shift)
  let tail (shift : Nat) : UInt8 := UInt8.ofNat (0x80 + (n >>> shift) % 0x40)
  if n < 0x80 then [lead 0 0]
  else if n < 0x800 then [lead 0xC0 6, tail 0]
  else if n < 0x10000 then [lead 0xE0 12, tail 6, tail 0]
  else [lead 0xF0 18, tail 12, tail 6, tail 0]

/-- A run of surrogates, which stands in the way of the byte form. -/
structure Unencodable where
  position : Nat
  first : CodePoint
  count : Nat
deriving DecidableEq

def encode (t : Text) : Except Unencodable Bytes :=
  match t.dropWhile (!·.isSurrogate) with
  | [] => .ok (t.flatMap unit)
  | c :: rest =>
    .error ⟨t.length - (c :: rest).length, c, (c :: rest).takeWhile (·.isSurrogate) |>.length⟩

/-- What is wrong with a sequence of bytes. -/
inductive Fault where
  | start
  | continuation
  | truncated
deriving DecidableEq

/-- The first bytes that are no byte form of anything. -/
structure Undecodable where
  fault : Fault
  position : Nat
  first : UInt8
  count : Nat
deriving DecidableEq

/-- May `b` follow the lead byte `a`? Forms longer than needed, surrogates and numbers beyond the
last code point are ruled out here. -/
def secondFits (a b : UInt8) : Bool :=
  if a = 0xE0 then 0xA0 ≤ b && b ≤ 0xBF
  else if a = 0xED then 0x80 ≤ b && b ≤ 0x9F
  else if a = 0xF0 then 0x90 ≤ b && b ≤ 0xBF
  else if a = 0xF4 then 0x80 ≤ b && b ≤ 0x8F
  else 0x80 ≤ b && b ≤ 0xBF

def continues (b : UInt8) : Bool :=
  0x80 ≤ b && b ≤ 0xBF

/-- The code point whose bytes carry these parts of its number, the highest first. -/
def assemble (parts : List Nat) : CodePoint :=
  (CodePoint.ofNat? (parts.foldl (fun n p => n * 0x40 + p) 0)).getD default

/-- The low six bits of a byte that continues a code point. -/
def payload (b : UInt8) : Nat :=
  b.toNat % 0x40

/-- Reads the bytes from `position` on. -/
def decodeFrom (position : Nat) : Bytes → Except Undecodable Text
  | [] => .ok []
  | a :: r₁ =>
    if a < 0x80 then
      (assemble [a.toNat] :: ·) <$> decodeFrom (position + 1) r₁
    else if a < 0xC2 ∨ 0xF4 < a then
      .error ⟨.start, position, a, 1⟩
    else
      match r₁ with
      | [] => .error ⟨.truncated, position, a, 1⟩
      | b :: r₂ =>
        if !secondFits a b then
          .error ⟨.continuation, position, a, 1⟩
        else if a < 0xE0 then
          (assemble [a.toNat - 0xC0, payload b] :: ·) <$> decodeFrom (position + 2) r₂
        else
          match r₂ with
          | [] => .error ⟨.truncated, position, a, 2⟩
          | c :: r₃ =>
            if !continues c then
              .error ⟨.continuation, position, a, 2⟩
            else if a < 0xF0 then
              (assemble [a.toNat - 0xE0, payload b, payload c] :: ·)
                <$> decodeFrom (position + 3) r₃
            else
              match r₃ with
              | [] => .error ⟨.truncated, position, a, 3⟩
              | d :: r₄ =>
                if !continues d then
                  .error ⟨.continuation, position, a, 3⟩
                else
                  (assemble [a.toNat - 0xF0, payload b, payload c, payload d] :: ·)
                    <$> decodeFrom (position + 4) r₄

def decode (bytes : Bytes) : Except Undecodable Text :=
  decodeFrom 0 bytes

/-- A place, or a range of places when more than one is concerned. -/
def placeMessage (one many : Text) (position count : Nat) : Text :=
  if count = 1 then
    one ++ " in position " ++ Numeral.digits position
  else
    many ++ " in position " ++ Numeral.digits position ++ "-"
      ++ Numeral.digits (position + count - 1)

def Unencodable.message (e : Unencodable) : Text :=
  "'utf-8' codec can't encode "
    ++ placeMessage ("character '\\u" ++ Numeral.hex 4 e.first.val ++ "'") "characters" e.position
        e.count
    ++ ": surrogates not allowed"

def Fault.message : Fault → Text
  | .start => "invalid start byte"
  | .continuation => "invalid continuation byte"
  | .truncated => "unexpected end of data"

def Undecodable.message (e : Undecodable) : Text :=
  "'utf-8' codec can't decode "
    ++ placeMessage ("byte 0x" ++ Numeral.hex 2 e.first.toNat) "bytes" e.position e.count
    ++ ": " ++ e.fault.message

end Utf8

end IssueMerge
