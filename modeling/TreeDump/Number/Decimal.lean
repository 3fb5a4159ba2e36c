namespace TreeDump

/-- The number `digits * 10 ^ exponent`. -/
structure Decimal where
  digits : Nat
  exponent : Int
deriving DecidableEq, Inhabited

namespace Decimal

/-- The choices of an output format for decimal numbers. -/
structure Style where
  /-- Whether a number whose first digit counts `10 ^ e` is written with the point in place. -/
  inPlace : Int → Bool
  /-- What follows the digits of a whole number written in place. -/
  wholeEnd : List Char

/-- The digits, first to last, without leading zeros. -/
def digitChars (d : Decimal) : List Char :=
  Nat.toDigits 10 d.digits

/-- The power of ten that the first digit counts. -/
def leadingExponent (d : Decimal) : Int :=
  d.digitChars.length + d.exponent - 1

/-- Zeros fill the places between the digits and the point, on whichever side it lies. -/
def positional (wholeEnd : List Char) (d : Decimal) : List Char :=
  let point : Int := d.digitChars.length + d.exponent
  if 0 ≤ d.exponent then
    d.digitChars ++ List.replicate d.exponent.toNat '0' ++ wholeEnd
  else if 0 < point then
    d.digitChars.take point.toNat ++ '.' :: d.digitChars.drop point.toNat
  else
    '0' :: '.' :: (List.replicate (-point).toNat '0' ++ d.digitChars)

/-- The canonical numeral of an integer. -/
def integerChars (n : Int) : List Char :=
  if n < 0 then '-' :: Nat.toDigits 10 n.natAbs else Nat.toDigits 10 n.natAbs

/-- One digit before the point, the others behind it, then the exponent without a plus sign. -/
def scientific (d : Decimal) : List Char :=
  let fractional := match d.digitChars.drop 1 with
    | [] => []
    | rest => '.' :: rest
  d.digitChars.take 1 ++ fractional ++ 'e' :: integerChars d.leadingExponent

def write (style : Style) (d : Decimal) : List Char :=
  if style.inPlace d.leadingExponent then d.positional style.wholeEnd else d.scientific

end Decimal

end TreeDump
