import Mathlib.Tactic.Linarith
import Mathlib.Tactic.Ring
import TreeDump.Number.Shortest
import TreeDump.Proofs.Number.Nearest

namespace TreeDump

namespace RoundingInterval

/-- The value lies inside the interval, and the interval is not wider than the value is far from
    zero. -/
structure Centred (i : RoundingInterval) : Prop where
  low_pos : 0 < i.low
  low_lt : i.low < i.value
  value_lt : i.value < i.high
  high_le : i.high ≤ 2 * i.value

namespace Centred

variable {i : RoundingInterval} {n place digits : Nat}

/-- The ends belong to a closed interval only. -/
theorem contains_iff (hi : i.Centred) :
    i.contains n = true ↔ i.low ≤ n ∧ n ≤ i.high ∧ (n = i.low ∨ n = i.high → i.closed = true) := by
  have hlow := hi.low_lt
  have hhigh := hi.value_lt
  unfold contains
  split
  next hclosed =>
    rw [decide_eq_true_iff]
    exact ⟨fun ⟨hle, hge⟩ => ⟨hle, hge, fun _ => hclosed⟩, fun ⟨hle, hge, _⟩ => ⟨hle, hge⟩⟩
  next hopen =>
    rw [decide_eq_true_iff]
    constructor
    · rintro ⟨hlt, hgt⟩
      exact ⟨by omega, by omega, fun hend => by omega⟩
    · rintro ⟨hle, hge, hends⟩
      have hnotlow : n ≠ i.low := fun heq => hopen (hends (.inl heq))
      have hnothigh : n ≠ i.high := fun heq => hopen (hends (.inr heq))
      exact ⟨by omega, by omega⟩

theorem contains_value (hi : i.Centred) : i.contains i.value = true := by
  have hlow := hi.low_lt
  have hhigh := hi.value_lt
  exact hi.contains_iff.mpr ⟨by omega, by omega, fun hend => by omega⟩

/-- An interval has no gaps. -/
theorem contains_of_between {least most : Nat} (hi : i.Centred) (hleast : i.contains least = true)
    (hmost : i.contains most = true) (hle : least ≤ n) (hge : n ≤ most) : i.contains n = true := by
  obtain ⟨hlow, _, hclosed⟩ := hi.contains_iff.mp hleast
  obtain ⟨_, hhigh, hclosed'⟩ := hi.contains_iff.mp hmost
  refine hi.contains_iff.mpr ⟨by omega, by omega, ?_⟩
  rintro (heq | heq)
  · exact hclosed (.inl (by omega))
  · exact hclosed' (.inr (by omega))

/-- If neither neighbour of the value on a grid lies in the interval, no point of the grid does. -/
theorem not_contains_of_nearestOnGrid?_eq_none (hi : i.Centred) (hnone : i.nearestOnGrid? place = none)
    (k : Nat) : ¬ i.contains (k * 10 ^ place) = true := by
  have hneighbours : i.contains (i.value / 10 ^ place * 10 ^ place) = false ∧
      i.contains ((i.value / 10 ^ place + 1) * 10 ^ place) = false := by
    unfold nearestOnGrid? at hnone
    dsimp only at hnone
    rw [Nat.pow_eq] at hnone
    split at hnone
    · split at hnone <;> cases hnone
    · cases hnone
    · cases hnone
    next hbelow habove => exact ⟨hbelow, habove⟩
  obtain ⟨hbelow, habove⟩ := hneighbours
  have hstep : 0 < 10 ^ place := Nat.pow_pos (by omega)
  intro hpoint
  obtain hle | hgt := Nat.lt_or_ge (i.value / 10 ^ place) k
  · have hvalue : i.value < (i.value / 10 ^ place + 1) * 10 ^ place := by
      rw [Nat.mul_comm]
      exact Nat.lt_mul_div_succ i.value hstep
    have hnext : (i.value / 10 ^ place + 1) * 10 ^ place ≤ k * 10 ^ place :=
      Nat.mul_le_mul_right _ hle
    have hinside := hi.contains_of_between hi.contains_value hpoint (Nat.le_of_lt hvalue) hnext
    exact absurd hinside (Bool.eq_false_iff.mp habove)
  · have hvalue : i.value / 10 ^ place * 10 ^ place ≤ i.value := Nat.div_mul_le_self _ _
    have hprevious : k * 10 ^ place ≤ i.value / 10 ^ place * 10 ^ place := Nat.mul_le_mul_right _ hgt
    have hinside := hi.contains_of_between hpoint hi.contains_value hprevious hvalue
    exact absurd hinside (Bool.eq_false_iff.mp hbelow)

end Centred

/-- Three bits are fewer than a decimal digit. -/
theorem value_lt_topPlace (i : RoundingInterval) : i.value < 10 ^ i.topPlace := by
  calc i.value < 2 ^ (i.value.log2 + 1) := Nat.lt_log2_self
    _ ≤ 2 ^ (3 * i.topPlace) := Nat.pow_le_pow_right (by omega) (by rw [topPlace]; omega)
    _ = 8 ^ i.topPlace := Nat.pow_mul 2 3 i.topPlace
    _ ≤ 10 ^ i.topPlace := Nat.pow_le_pow_left (by omega) i.topPlace

/-- What the search from a grid downwards finds: a point of the interval on a grid, and none of the
    coarser grids has one. -/
structure Coarsest (i : RoundingInterval) (top place digits : Nat) : Prop where
  place_le : place ≤ top
  contains : i.contains (digits * 10 ^ place) = true
  coarser : ∀ above, place < above → above ≤ top → ∀ k, ¬ i.contains (k * 10 ^ above) = true

namespace Centred

variable {i : RoundingInterval}

theorem onCoarsestGrid (hi : i.Centred) (top : Nat) :
    ∃ place digits : Nat, i.onCoarsestGrid top = ⟨digits, i.unitExponent + place⟩ ∧
      i.Coarsest top place digits := by
  induction top with
  | zero =>
    refine ⟨0, i.value, ?_, ?_⟩
    · rw [RoundingInterval.onCoarsestGrid, Nat.cast_zero, Int.add_zero]
    · refine ⟨Nat.le_refl 0, ?_, fun above habove hle => by omega⟩
      rw [Nat.pow_zero, Nat.mul_one]
      exact hi.contains_value
  | succ top ih =>
    rw [RoundingInterval.onCoarsestGrid]
    cases hgrid : i.nearestOnGrid? (top + 1) with
    | some digits =>
      refine ⟨top + 1, digits, rfl, Nat.le_refl _, ?_, fun above habove hle => by omega⟩
      have hpoint := contains_of_nearestOnGrid? hgrid
      rwa [Nat.pow_eq] at hpoint
    | none =>
      obtain ⟨place, digits, heq, hcoarsest⟩ := ih
      refine ⟨place, digits, heq, Nat.le_succ_of_le hcoarsest.place_le, hcoarsest.contains, ?_⟩
      intro above habove hle
      by_cases htop : above ≤ top
      · exact hcoarsest.coarser above habove htop
      · obtain rfl : above = top + 1 := by omega
        exact hi.not_contains_of_nearestOnGrid?_eq_none hgrid

/-- Digits that end in zero would be on a coarser grid. -/
theorem digits_mod_ten {place digits : Nat} (hi : i.Centred)
    (hcoarsest : i.Coarsest i.topPlace place digits) : digits % 10 ≠ 0 := by
  intro hzero
  have hpoint := hcoarsest.contains
  obtain hplace | hplace := Nat.lt_or_eq_of_le hcoarsest.place_le
  · have hshift : digits * 10 ^ place = digits / 10 * 10 ^ (place + 1) := by
      rw [Nat.pow_succ', ← Nat.mul_assoc, Nat.div_mul_cancel (Nat.dvd_of_mod_eq_zero hzero)]
    rw [hshift] at hpoint
    exact hcoarsest.coarser (place + 1) (Nat.lt_succ_self place) hplace (digits / 10) hpoint
  · obtain ⟨hlow, hhigh, _⟩ := hi.contains_iff.mp hpoint
    have hlowpos := hi.low_pos
    have hdigits : digits < 2 := by
      have hvalue := i.value_lt_topPlace
      have hends := hi.high_le
      rw [← hplace] at hvalue
      exact Nat.lt_of_mul_lt_mul_right (Nat.lt_of_le_of_lt hhigh (by omega))
    obtain rfl : digits = 0 := by omega
    rw [Nat.zero_mul] at hlow
    omega

end Centred

section Around

variable {significand : Nat} {exponent : Int}

/-- A quarter of the last binary place, in the unit of the interval. -/
def quarter (exponent : Int) : Nat :=
  if 2 ≤ exponent then Nat.pow 2 (exponent - 2).toNat else Nat.pow 5 (2 - exponent).toNat

/-- The quarters from the value down to the lower end. -/
def quartersBelow (significand : Nat) (exponent : Int) : Nat :=
  if NarrowBelow significand exponent then 1 else 2

theorem around_low :
    (around significand exponent).low =
      (4 * significand - quartersBelow significand exponent) * quarter exponent :=
  rfl

theorem around_value : (around significand exponent).value = 4 * significand * quarter exponent :=
  rfl

theorem around_high : (around significand exponent).high = (4 * significand + 2) * quarter exponent :=
  rfl

theorem quarter_pos (exponent : Int) : 0 < quarter exponent := by
  unfold quarter
  split
  · exact Nat.pow_pos (by omega)
  · exact Nat.pow_pos (by omega)

theorem quartersBelow_le (significand : Nat) (exponent : Int) :
    0 < quartersBelow significand exponent ∧ quartersBelow significand exponent ≤ 2 := by
  unfold quartersBelow
  split
  · exact ⟨by omega, by omega⟩
  · exact ⟨by omega, by omega⟩

theorem centred_around (hpos : 0 < significand) : (around significand exponent).Centred := by
  obtain ⟨hgap, hgap'⟩ := quartersBelow_le significand exponent
  have hquarter := quarter_pos exponent
  refine ⟨?_, ?_, ?_, ?_⟩
  · rw [around_low]
    exact Nat.mul_pos (by omega) hquarter
  · rw [around_low, around_value]
    exact Nat.mul_lt_mul_of_pos_right (by omega) hquarter
  · rw [around_value, around_high]
    exact Nat.mul_lt_mul_of_pos_right (by omega) hquarter
  · rw [around_value, around_high, ← Nat.mul_assoc]
    exact Nat.mul_le_mul_right _ (by omega)

/-- Four quarters are one binary place. -/
theorem quarter_mul_unit (significand : Nat) (exponent : Int) :
    4 * (quarter exponent : ℚ) * 10 ^ (around significand exponent).unitExponent = 2 ^ exponent := by
  by_cases hlarge : 2 ≤ exponent
  · have hunit : (around significand exponent).unitExponent = 0 := if_pos hlarge
    have hquarter : quarter exponent = 2 ^ (exponent - 2).toNat := by
      rw [quarter, if_pos hlarge, Nat.pow_eq]
    have hsplit : ((exponent - 2).toNat : Int) + (2 : Nat) = exponent := by omega
    calc 4 * (quarter exponent : ℚ) * 10 ^ (around significand exponent).unitExponent
        = 2 ^ 2 * 2 ^ (exponent - 2).toNat := by
          rw [hunit, hquarter]
          push_cast
          ring
      _ = 2 ^ exponent := by
          rw [← zpow_natCast _ (exponent - 2).toNat, ← Binary64.zpow_add_natCast, hsplit]
  · obtain ⟨places, rfl⟩ : ∃ places : Nat, exponent = 2 - places := ⟨(2 - exponent).toNat, by omega⟩
    have hunit : (around significand (2 - places)).unitExponent = -places := by
      rw [show (around significand (2 - places)).unitExponent = 2 - places - 2 from if_neg hlarge]
      omega
    have hquarter : quarter (2 - places) = 5 ^ places := by
      rw [quarter, if_neg hlarge, Nat.pow_eq]
      congr 1
      omega
    have hten : (10 : ℚ) ^ places = 5 ^ places * 2 ^ places := by
      rw [← mul_pow]
      norm_num
    calc 4 * (quarter (2 - places) : ℚ) * 10 ^ (around significand (2 - places)).unitExponent
        = 2 ^ 2 / 2 ^ places := by
          have hfive : (5 : ℚ) ^ places ≠ 0 := pow_ne_zero _ (by norm_num)
          rw [hunit, hquarter, zpow_neg, zpow_natCast, hten]
          push_cast
          field_simp
          norm_num
      _ = 2 ^ ((2 : Int) - places) := by
          rw [zpow_sub₀ two_ne_zero, zpow_natCast]
          norm_num

variable {place word n : Nat}

/-- The lower end is the midpoint to the word before, also where that has a lower exponent. -/
theorem midpoint_below {previous : Nat} (hprevious : previous + 1 = place * 2 ^ 52 + significand)
    (hlt : significand < 2 ^ 53) (hnormal : place = 0 ∨ 2 ^ 52 ≤ significand) :
    2 * (Binary64.unitsAt previous + Binary64.unitsAt (previous + 1)) =
      (4 * significand - quartersBelow significand (place - 1074)) * 2 ^ place := by
  by_cases hnarrow : NarrowBelow significand (place - 1074)
  · have hgap : quartersBelow significand (place - 1074) = 1 := if_pos hnarrow
    obtain ⟨hleast, habove⟩ := hnarrow
    rw [Nat.pow_eq] at hleast
    obtain ⟨lower, rfl⟩ : ∃ lower, place = lower + 1 := ⟨place - 1, by omega⟩
    have hlower : previous = lower * 2 ^ 52 + (2 ^ 53 - 1) := by omega
    rw [hlower, Binary64.unitsAt_add_unitsAt_succ (by omega) (by omega), hgap, hleast, Nat.pow_succ]
    ring
  · have hgap : quartersBelow significand (place - 1074) = 2 := if_neg hnarrow
    have hsame : place = 0 ∨ 2 ^ 52 ≤ significand - 1 := by
      unfold NarrowBelow at hnarrow
      rw [Nat.pow_eq] at hnarrow
      omega
    have hlower : previous = place * 2 ^ 52 + (significand - 1) := by omega
    have hquarters : 4 * significand - 2 = 2 * (2 * (significand - 1) + 1) := by omega
    rw [hlower, Binary64.unitsAt_add_unitsAt_succ (by omega) hsame, hgap, hquarters, Nat.mul_assoc]

theorem midpoint_above (hlt : significand < 2 ^ 53) (hnormal : place = 0 ∨ 2 ^ 52 ≤ significand) :
    2 * (Binary64.unitsAt (place * 2 ^ 52 + significand) +
      Binary64.unitsAt (place * 2 ^ 52 + significand + 1)) = (4 * significand + 2) * 2 ^ place := by
  rw [Binary64.unitsAt_add_unitsAt_succ hlt hnormal]
  ring

/-- The least positive doubles that a point of the interval around a number amounts to. -/
def unitsOf (significand place n : Nat) : ℚ :=
  n * 10 ^ (around significand (place - 1074)).unitExponent / Binary64.unit

theorem four_mul_unitsOf (significand place n : Nat) :
    4 * unitsOf significand place n = n / quarter (place - 1074) * 2 ^ place := by
  have hquarter : (quarter (place - 1074) : ℚ) ≠ 0 := Nat.cast_ne_zero.mpr (quarter_pos _).ne'
  have hscale := quarter_mul_unit significand (place - 1074)
  rw [Binary64.zpow_eq_mul_unit] at hscale
  rw [unitsOf, ← mul_div_assoc, div_eq_iff Binary64.unit_pos.ne', mul_assoc (n / _ : ℚ), ← hscale]
  field_simp

/-- A point is beyond so many quarters of the last place just if it is so in the unit of the interval. -/
theorem le_unitsOf_iff (significand quarters : Nat) :
    ((quarters * 2 ^ place : Nat) : ℚ) ≤ 4 * unitsOf significand place n ↔
      quarters * quarter (place - 1074) ≤ n := by
  have hquarter : (0 : ℚ) < quarter (place - 1074) := Nat.cast_pos.mpr (quarter_pos _)
  have hpower : (0 : ℚ) < 2 ^ place := pow_pos two_pos _
  rw [four_mul_unitsOf, Nat.cast_mul, Nat.cast_pow, Nat.cast_ofNat, mul_le_mul_iff_of_pos_right hpower,
    le_div_iff₀ hquarter]
  exact_mod_cast Iff.rfl

theorem unitsOf_le_iff (significand quarters : Nat) :
    4 * unitsOf significand place n ≤ ((quarters * 2 ^ place : Nat) : ℚ) ↔
      n ≤ quarters * quarter (place - 1074) := by
  have hquarter : (0 : ℚ) < quarter (place - 1074) := Nat.cast_pos.mpr (quarter_pos _)
  have hpower : (0 : ℚ) < 2 ^ place := pow_pos two_pos _
  rw [four_mul_unitsOf, Nat.cast_mul, Nat.cast_pow, Nat.cast_ofNat, mul_le_mul_iff_of_pos_right hpower,
    div_le_iff₀ hquarter]
  exact_mod_cast Iff.rfl

/-- What lies in the interval around a number rounds to it. -/
theorem nearestWord_of_contains (hword : word = place * 2 ^ 52 + significand) (hpos : 0 < significand)
    (hlt : significand < 2 ^ 53) (hnormal : place = 0 ∨ 2 ^ 52 ≤ significand)
    (hfinite : word < Binary64.infinityBits)
    (hcontains : (around significand (place - 1074)).contains n = true) :
    Binary64.NearestWord (unitsOf significand place n) word := by
  obtain ⟨hlow, hhigh, hends⟩ := (centred_around hpos).contains_iff.mp hcontains
  rw [around_low, around_high] at hends
  rw [around_low] at hlow
  rw [around_high] at hhigh
  -- The ends round to the even one of two words, and both parities are those of the significand.
  have heven (hend :
      n = (4 * significand - quartersBelow significand (place - 1074)) * quarter (place - 1074) ∨
        n = (4 * significand + 2) * quarter (place - 1074)) : word % 2 = 0 := by
    have hclosed : significand % 2 = 0 := beq_iff_eq.mp (hends hend)
    omega
  refine Binary64.nearestWord_of_midpoints (Nat.le_of_lt hfinite) (fun previous hprevious => ?_) fun _ => ?_
  · have hmidpoint : (2 * (Binary64.unitsAt previous + Binary64.unitsAt word) : ℚ) =
        (((4 * significand - quartersBelow significand (place - 1074)) * 2 ^ place : Nat) : ℚ) := by
      rw [← midpoint_below (hprevious.trans hword) hlt hnormal, hprevious]
      push_cast
      rfl
    have hbelow := (le_unitsOf_iff significand _).mpr hlow
    refine ⟨by linarith, fun heq => heven (.inl (Nat.le_antisymm ?_ hlow))⟩
    exact (unitsOf_le_iff significand _).mp (by linarith)
  · have hmidpoint : (2 * (Binary64.unitsAt word + Binary64.unitsAt (word + 1)) : ℚ) =
        (((4 * significand + 2) * 2 ^ place : Nat) : ℚ) := by
      rw [← midpoint_above hlt hnormal, ← hword]
      push_cast
      rfl
    have habove := (unitsOf_le_iff significand _).mpr hhigh
    refine ⟨by linarith, fun heq => heven (.inr (Nat.le_antisymm hhigh ?_))⟩
    exact (le_unitsOf_iff significand _).mp (by linarith)

end Around

end RoundingInterval

namespace Decimal

variable {significand : Nat} {exponent : Int}

/-- The digits do not end in zero; the number zero has no power of ten. -/
def Trimmed (d : Decimal) : Prop :=
  d.digits % 10 ≠ 0 ∨ d = ⟨0, 0⟩

/-- The shortest decimal is a point of the interval on the coarsest grid that has one. -/
theorem shortest_eq (hpos : 0 < significand) (exponent : Int) :
    ∃ place digits : Nat,
      shortest significand exponent =
        ⟨digits, (RoundingInterval.around significand exponent).unitExponent + place⟩ ∧
      (RoundingInterval.around significand exponent).Coarsest
        (RoundingInterval.around significand exponent).topPlace place digits := by
  rw [shortest, if_neg (by omega)]
  exact (RoundingInterval.centred_around hpos).onCoarsestGrid _

theorem trimmed_shortest (significand : Nat) (exponent : Int) : (shortest significand exponent).Trimmed := by
  obtain rfl | hpos := Nat.eq_zero_or_pos significand
  · exact .inr rfl
  · obtain ⟨place, digits, heq, hcoarsest⟩ := shortest_eq hpos exponent
    rw [heq]
    exact .inl ((RoundingInterval.centred_around hpos).digits_mod_ten hcoarsest)

end Decimal

namespace Binary64

/-- The shortest decimal of a number rounds to it. -/
theorem nearest_shortest {x : Binary64} {significand : Nat} {exponent : Int}
    (hfinite : x.magnitude = .finite significand exponent) :
    x.Nearest x.negative (Decimal.shortest significand exponent).value := by
  obtain ⟨place, rfl, hword, hlt, hnormal, hbelow⟩ := word_of_finite hfinite
  refine nearest_iff.mpr ⟨rfl, ?_⟩
  obtain rfl | hpos := Nat.eq_zero_or_pos significand
  · have hzero : x.word = 0 := by omega
    have hvalue : (Decimal.shortest 0 (place - 1074)).value / unit = 0 := by
      rw [Decimal.shortest, if_pos rfl, Decimal.value, Nat.cast_zero, zero_mul, zero_div]
    rw [hzero, hvalue]
    exact nearestWord_zero
  · obtain ⟨grid, digits, heq, hcoarsest⟩ := Decimal.shortest_eq hpos (place - 1074)
    have hnearest :=
      RoundingInterval.nearestWord_of_contains hword hpos hlt hnormal hbelow hcoarsest.contains
    have hvalue : ((digits * 10 ^ grid : Nat) : ℚ) *
        10 ^ (RoundingInterval.around significand (place - 1074)).unitExponent =
          (Decimal.shortest significand (place - 1074)).value := by
      rw [heq, Decimal.value, zpow_add₀ (by norm_num), zpow_natCast]
      push_cast
      ring
    rwa [RoundingInterval.unitsOf, hvalue] at hnearest

end Binary64

end TreeDump
