import TreeDump.Number.Decimal

namespace TreeDump

/-- An interval of positive reals around `value`. All three numbers count the unit
    `10 ^ unitExponent`, and `closed` says whether the ends belong to the interval. -/
structure RoundingInterval where
  low : Nat
  value : Nat
  high : Nat
  closed : Bool
  unitExponent : Int

namespace RoundingInterval

/-- A power of two has a neighbour below at half the usual distance, unless it is the smallest
    normal number. -/
def NarrowBelow (significand : Nat) (exponent : Int) : Prop :=
  significand = Nat.pow 2 52 ∧ -1074 < exponent

instance (significand : Nat) (exponent : Int) : Decidable (NarrowBelow significand exponent) :=
  inferInstanceAs (Decidable (_ ∧ _))

/-- The reals that round to `significand * 2 ^ exponent`. In quarters of the last binary place both
    ends are whole, and a quarter is a whole multiple of a power of ten; the ends round to the even
    significand. -/
def around (significand : Nat) (exponent : Int) : RoundingInterval :=
  let quarter := if 2 ≤ exponent then Nat.pow 2 (exponent - 2).toNat else Nat.pow 5 (2 - exponent).toNat
  let gap := if NarrowBelow significand exponent then 1 else 2
  { low := (4 * significand - gap) * quarter
    value := 4 * significand * quarter
    high := (4 * significand + 2) * quarter
    closed := significand % 2 == 0
    unitExponent := if 2 ≤ exponent then 0 else exponent - 2 }

def contains (i : RoundingInterval) (n : Nat) : Bool :=
  if i.closed then decide (i.low ≤ n ∧ n ≤ i.high) else decide (i.low < n ∧ n < i.high)

/-- The multiple of `10 ^ place` in the interval that is nearest to the value, divided by that power;
    a tie goes to the upper one. Only the two neighbours of the value matter, since the
    interval has no gap. -/
def nearestOnGrid? (i : RoundingInterval) (place : Nat) : Option Nat :=
  let step := Nat.pow 10 place
  let below := i.value / step
  match i.contains (below * step), i.contains ((below + 1) * step) with
  | true, true => some (if step ≤ 2 * (i.value % step) then below + 1 else below)
  | true, false => some below
  | false, true => some (below + 1)
  | false, false => none

/-- A hit on a grid lies in the interval. -/
theorem contains_of_nearestOnGrid? {i : RoundingInterval} {place digits : Nat}
    (hhit : i.nearestOnGrid? place = some digits) : i.contains (digits * Nat.pow 10 place) = true := by
  unfold nearestOnGrid? at hhit
  dsimp only at hhit
  split at hhit <;> rename_i hbelow habove
  · split at hhit <;> cases hhit <;> assumption
  · cases hhit; assumption
  · cases hhit; assumption
  · cases hhit

/-- The first hit on the grids from `10 ^ place` downwards. The grid of single units holds the
    value itself. -/
def onCoarsestGrid (i : RoundingInterval) : Nat → Decimal
  | 0 => ⟨i.value, i.unitExponent⟩
  | place + 1 =>
    match i.nearestOnGrid? (place + 1) with
    | some digits => ⟨digits, i.unitExponent + (place + 1)⟩
    | none => i.onCoarsestGrid place

/-- A place whose power of ten exceeds the value, so that no coarser grid can have a hit. -/
def topPlace (i : RoundingInterval) : Nat :=
  i.value.log2 / 3 + 1

end RoundingInterval

/-- The decimal with the fewest digits that rounds to `significand * 2 ^ exponent`, and among those
    the nearest. -/
def Decimal.shortest (significand : Nat) (exponent : Int) : Decimal :=
  if significand = 0 then
    ⟨0, 0⟩
  else
    let interval := RoundingInterval.around significand exponent
    interval.onCoarsestGrid interval.topPlace

end TreeDump
