namespace TreeDump

inductive NumeralError where
  | empty
  | invalidDigit
  | tooLarge
  | tooSmall
deriving DecidableEq, Repr

def NumeralError.message : NumeralError → String
  | .empty => "cannot parse integer from empty string"
  | .invalidDigit => "invalid digit found in string"
  | .tooLarge => "number too large to fit in target type"
  | .tooSmall => "number too small to fit in target type"

namespace Numeral

/-- Reads digits onto a number already read, which must stay within the bound. -/
def readDigits (bound : Nat) (beyond : NumeralError) (n : Nat) : List Char → Except NumeralError Nat
  | [] => .ok n
  | c :: cs =>
    if !c.isDigit then
      .error .invalidDigit
    else if bound < 10 * n + (c.toNat - '0'.toNat) then
      .error beyond
    else
      readDigits bound beyond (10 * n + (c.toNat - '0'.toNat)) cs

/-- Reads the digits after a sign, of which there must be one at least. -/
def readSigned (bound : Nat) (beyond : NumeralError) : List Char → Except NumeralError Nat
  | [] => .error .invalidDigit
  | digits => readDigits bound beyond 0 digits

/-- A signed integer of 64 bits. -/
def readInt64 : List Char → Except NumeralError Int
  | [] => .error .empty
  | '+' :: digits => (readSigned (Nat.pow 2 63 - 1) .tooLarge digits).map Int.ofNat
  | '-' :: digits => (readSigned (Nat.pow 2 63) .tooSmall digits).map fun n => -Int.ofNat n
  | digits => (readDigits (Nat.pow 2 63 - 1) .tooLarge 0 digits).map Int.ofNat

/-- An unsigned integer of 64 bits. It may have a plus sign, but a minus sign is no digit. -/
def readUInt64 : List Char → Except NumeralError Nat
  | [] => .error .empty
  | '+' :: digits => readSigned (Nat.pow 2 64 - 1) .tooLarge digits
  | digits => readDigits (Nat.pow 2 64 - 1) .tooLarge 0 digits

/-- The text behind a sign, if it has one. -/
def unsigned : List Char → List Char
  | '+' :: text => text
  | '-' :: text => text
  | text => text

/-- Nothing, or a power of ten behind the digits of a number. -/
def isExponent : List Char → Bool
  | [] => true
  | e :: power =>
    (e == 'e' || e == 'E') && !(unsigned power).isEmpty && (unsigned power).all Char.isDigit

/-- Digits with at most one point, on one side of which they may be missing. -/
def isDecimal (text : List Char) : Bool :=
  let whole := text.takeWhile Char.isDigit
  match text.drop whole.length with
  | '.' :: rest =>
    let fractional := rest.takeWhile Char.isDigit
    !(whole.isEmpty && fractional.isEmpty) && isExponent (rest.drop fractional.length)
  | rest => !whole.isEmpty && isExponent rest

/-- A number in decimal digits, or the name of a value that has none. -/
def isReal (text : List Char) : Bool :=
  isDecimal (unsigned text) ||
    ["inf", "infinity", "nan"].contains (String.ofList ((unsigned text).map Char.toLower))

end Numeral

end TreeDump
