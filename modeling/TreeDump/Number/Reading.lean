import TreeDump.Number.Binary64
import TreeDump.Number.Decimal

namespace TreeDump

namespace Decimal

/-- Reads digits with at most one point among them, which has a digit on either side. -/
def read? (text : List Char) : Option Decimal :=
  let whole := text.takeWhile Char.isDigit
  if whole.isEmpty then
    none
  else
    match text.drop whole.length with
    | [] => some ⟨Nat.ofDigitChars 10 whole 0, 0⟩
    | '.' :: fractional =>
      if fractional.isEmpty || !fractional.all Char.isDigit then none
      else some ⟨Nat.ofDigitChars 10 (whole ++ fractional) 0, -fractional.length⟩
    | _ => none

/-- A fraction that equals the number. -/
def numerator (d : Decimal) : Nat :=
  d.digits * Nat.pow 10 d.exponent.toNat

def denominator (d : Decimal) : Nat :=
  Nat.pow 10 (-d.exponent).toNat

/-- The denominator is a power of ten and so not zero, whatever the digits. -/
theorem denominator_pos (d : Decimal) : 0 < d.denominator :=
  Nat.pow_pos (by decide)

end Decimal

namespace Binary64

/-- The nearest natural to a fraction; a tie goes to the even one. -/
def roundDiv (num den : Nat) : Nat :=
  let below := num / den
  let twice := 2 * (num % den)
  if den < twice ∨ den = twice ∧ below % 2 = 1 then below + 1 else below

/-- The bits of positive infinity, the least that stand for no finite number. -/
def infinityBits : Nat :=
  2047 * Nat.pow 2 52

/-- The exponent at which a positive fraction is measured: the least that leaves 53 bits before the
    point at most, but none below that of the subnormal numbers. -/
def exponentFor (num den : Nat) : Int :=
  let guess : Int := num.log2 - den.log2 - 53
  let fits := num * Nat.pow 2 (-guess).toNat < den * Nat.pow 2 guess.toNat * Nat.pow 2 53
  max (-1074) (if fits then guess else guess + 1)

/-- The bits of the double nearest to a positive fraction. A significand that rounds up to one bit
    more carries into the exponent, and past the largest exponent everything is infinite. -/
def nearestBits (num den : Nat) : Nat :=
  let exponent := exponentFor num den
  let significand := roundDiv (num * Nat.pow 2 (-exponent).toNat) (den * Nat.pow 2 exponent.toNat)
  min infinityBits ((exponent + 1074).toNat * Nat.pow 2 52 + significand)

/-- The double nearest to a decimal with a sign. -/
def ofDecimal (negative : Bool) (d : Decimal) : Binary64 :=
  ofFields negative 0 (if d.digits = 0 then 0 else nearestBits d.numerator d.denominator)

/-- Reads a numeral with an optional minus sign. A zero keeps its sign. -/
def read? (text : List Char) : Option Binary64 :=
  match text with
  | '-' :: digits => (Decimal.read? digits).map (ofDecimal true)
  | digits => (Decimal.read? digits).map (ofDecimal false)

end Binary64

end TreeDump
