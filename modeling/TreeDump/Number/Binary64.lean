namespace TreeDump

/-- A double, kept as the 64 bits of its encoding. -/
structure Binary64 where
  bits : UInt64
deriving Inhabited

namespace Binary64

/-- What a word says apart from its sign: `finite significand exponent` is the number
    `significand * 2 ^ exponent`. -/
inductive Magnitude where
  | nan
  | infinite
  | finite (significand : Nat) (exponent : Int)
deriving DecidableEq

/-- The sign bit. It is also set on a negative zero, and may be set on a NaN. -/
def negative (x : Binary64) : Bool :=
  decide (Nat.pow 2 63 ≤ x.bits.toNat)

def fraction (x : Binary64) : Nat :=
  x.bits.toNat % Nat.pow 2 52

def biasedExponent (x : Binary64) : Nat :=
  x.bits.toNat / Nat.pow 2 52 % Nat.pow 2 11

/-- Subnormals share the exponent of the smallest normal numbers and lack their leading bit. -/
def magnitude (x : Binary64) : Magnitude :=
  if x.biasedExponent = 2047 then
    if x.fraction = 0 then .infinite else .nan
  else if x.biasedExponent = 0 then
    .finite x.fraction (-1074)
  else
    .finite (Nat.pow 2 52 + x.fraction) (x.biasedExponent - 1075)

/-- Equality of numbers: a NaN equals nothing, itself included, and the two zeros are equal. -/
def equal (x y : Binary64) : Bool :=
  match x.magnitude, y.magnitude with
  | .nan, _ => false
  | _, .nan => false
  | .finite 0 _, .finite 0 _ => true
  | _, _ => x.bits == y.bits

instance : BEq Binary64 := ⟨equal⟩

/-- The word with the given fields. Fields that are too wide spill into their neighbours. -/
def ofFields (negative : Bool) (biasedExponent fraction : Nat) : Binary64 :=
  ⟨UInt64.ofNat ((if negative then Nat.pow 2 63 else 0) + biasedExponent * Nat.pow 2 52 + fraction)⟩

/-- A 32-bit integer has at most 32 significant bits, so the fraction holds all of them but the
    leading one and the conversion is exact. -/
def ofInt32 (n : Int32) : Binary64 :=
  let size := n.toInt.natAbs
  if size = 0 then
    ⟨0⟩
  else
    let exponent := size.log2
    ofFields (decide (n.toInt < 0)) (exponent + 1023) (size * Nat.pow 2 (52 - exponent) - Nat.pow 2 52)

end Binary64

end TreeDump
