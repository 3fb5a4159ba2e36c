import Mathlib.Algebra.Order.Field.Power
import Mathlib.Data.Rat.Cast.Order
import Mathlib.Tactic.Ring
import TreeDump.Number.Reading
import TreeDump.Proofs.Number.Equality

namespace TreeDump

namespace Binary64

/-- The word without its sign. -/
def word (x : Binary64) : Nat :=
  x.bits.toNat % 2 ^ 63

section Word

variable {x y : Binary64}

theorem word_lt (x : Binary64) : x.word < 2 ^ 63 :=
  Nat.mod_lt _ (by omega)

theorem toNat_bits (x : Binary64) : x.bits.toNat = (if x.negative then 2 ^ 63 else 0) + x.word := by
  have hword := x.bits.toNat_lt
  by_cases hsign : 2 ^ 63 ≤ x.bits.toNat
  · have hnegative : x.negative = true := decide_eq_true hsign
    rw [hnegative, if_pos rfl, word]
    omega
  · have hnegative : x.negative = false := decide_eq_false hsign
    rw [hnegative, if_neg Bool.false_ne_true, word]
    omega

/-- A double is its sign and its word. -/
theorem ext_word (hnegative : x.negative = y.negative) (hword : x.word = y.word) : x = y := by
  have hbits : x.bits = y.bits := by
    rw [← UInt64.toNat_inj, toNat_bits, toNat_bits, hnegative, hword]
  obtain ⟨bits⟩ := x
  obtain ⟨bits'⟩ := y
  rw [show bits = bits' from hbits]

theorem toNat_bits_ofFields (negative : Bool) {word : Nat} (hword : word < 2 ^ 63) :
    (ofFields negative 0 word).bits.toNat = (if negative then 2 ^ 63 else 0) + word := by
  have hvalue : (if negative then Nat.pow 2 63 else 0) + 0 * Nat.pow 2 52 + word =
      (if negative then 2 ^ 63 else 0) + word := by
    rw [Nat.zero_mul, Nat.add_zero, Nat.pow_eq]
  have hbound : (if negative then 2 ^ 63 else 0) + word < 2 ^ 64 := by
    cases negative
    · rw [if_neg Bool.false_ne_true]
      omega
    · rw [if_pos rfl]
      omega
  rw [ofFields, hvalue, UInt64.toNat_ofNat']
  exact Nat.mod_eq_of_lt hbound

theorem negative_ofFields (negative : Bool) {word : Nat} (hword : word < 2 ^ 63) :
    (ofFields negative 0 word).negative = negative := by
  rw [Binary64.negative, toNat_bits_ofFields negative hword, Nat.pow_eq]
  cases negative
  · exact decide_eq_false (by rw [if_neg Bool.false_ne_true]; omega)
  · exact decide_eq_true (by rw [if_pos rfl]; omega)

theorem word_ofFields (negative : Bool) {word : Nat} (hword : word < 2 ^ 63) :
    (ofFields negative 0 word).word = word := by
  rw [Binary64.word, toNat_bits_ofFields negative hword]
  cases negative
  · rw [if_neg Bool.false_ne_true, Nat.zero_add, Nat.mod_eq_of_lt hword]
  · rw [if_pos rfl, Nat.add_mod_left, Nat.mod_eq_of_lt hword]

theorem fraction_eq (x : Binary64) : x.fraction = x.word % 2 ^ 52 := by
  rw [fraction, word, Nat.pow_eq]
  omega

theorem biasedExponent_eq (x : Binary64) : x.biasedExponent = x.word / 2 ^ 52 := by
  rw [biasedExponent, word, Nat.pow_eq, Nat.pow_eq]
  omega

end Word

/-- The number of units that a word stands for. Infinity stands for the number that would follow the
    last finite one. -/
def unitsAt (word : Nat) : Nat :=
  if word < 2 ^ 52 then word else (2 ^ 52 + word % 2 ^ 52) * 2 ^ (word / 2 ^ 52 - 1)

/-- The significand counts `2 ^ exponent` units, whether or not it is short of a bit or has one too
    many. -/
theorem unitsAt_eq {exponent significand : Nat} (hle : significand ≤ 2 ^ 53)
    (hnormal : exponent = 0 ∨ 2 ^ 52 ≤ significand) :
    unitsAt (exponent * 2 ^ 52 + significand) = significand * 2 ^ exponent := by
  by_cases hshort : significand < 2 ^ 52
  · obtain rfl : exponent = 0 := by omega
    rw [Nat.zero_mul, Nat.zero_add, unitsAt, if_pos hshort, Nat.pow_zero, Nat.mul_one]
  · have hlong : ¬ exponent * 2 ^ 52 + significand < 2 ^ 52 := by omega
    rw [unitsAt, if_neg hlong]
    by_cases hlast : significand = 2 ^ 53
    · have hquotient : (exponent * 2 ^ 52 + significand) / 2 ^ 52 - 1 = exponent + 1 := by omega
      have hrest : (exponent * 2 ^ 52 + significand) % 2 ^ 52 = 0 := by omega
      rw [hquotient, hrest, hlast, Nat.pow_succ]
      ring
    · have hquotient : (exponent * 2 ^ 52 + significand) / 2 ^ 52 - 1 = exponent := by omega
      have hrest : 2 ^ 52 + (exponent * 2 ^ 52 + significand) % 2 ^ 52 = significand := by omega
      rw [hquotient, hrest]

/-- Every word has an exponent and a significand that are not too long for it. -/
theorem exists_fields (word : Nat) :
    ∃ exponent significand, word = exponent * 2 ^ 52 + significand ∧ significand < 2 ^ 53 ∧
      (exponent = 0 ∨ 2 ^ 52 ≤ significand) :=
  ⟨word / 2 ^ 52 - 1, word - (word / 2 ^ 52 - 1) * 2 ^ 52, by omega, by omega, by omega⟩

/-- The next word stands for the next multiple of its power of two. -/
theorem unitsAt_succ {exponent significand : Nat} (hlt : significand < 2 ^ 53)
    (hnormal : exponent = 0 ∨ 2 ^ 52 ≤ significand) :
    unitsAt (exponent * 2 ^ 52 + significand + 1) =
      unitsAt (exponent * 2 ^ 52 + significand) + 2 ^ exponent := by
  have hnext : unitsAt (exponent * 2 ^ 52 + (significand + 1)) = (significand + 1) * 2 ^ exponent :=
    unitsAt_eq hlt (by omega)
  rw [Nat.add_assoc, hnext, unitsAt_eq (Nat.le_of_lt hlt) hnormal, Nat.add_mul, Nat.one_mul]

/-- Twice the midpoint of two words that follow each other. -/
theorem unitsAt_add_unitsAt_succ {exponent significand : Nat} (hlt : significand < 2 ^ 53)
    (hnormal : exponent = 0 ∨ 2 ^ 52 ≤ significand) :
    unitsAt (exponent * 2 ^ 52 + significand) + unitsAt (exponent * 2 ^ 52 + significand + 1) =
      (2 * significand + 1) * 2 ^ exponent := by
  rw [unitsAt_succ hlt hnormal, unitsAt_eq (Nat.le_of_lt hlt) hnormal]
  ring

theorem strictMono_unitsAt : StrictMono unitsAt := by
  refine strictMono_nat_of_lt_succ fun word => ?_
  obtain ⟨exponent, significand, rfl, hlt, hnormal⟩ := exists_fields word
  have hpos : 0 < 2 ^ exponent := Nat.two_pow_pos exponent
  rw [unitsAt_succ hlt hnormal]
  omega

section Magnitude

variable {x : Binary64}

theorem infinityBits_eq : infinityBits = 2047 * 2 ^ 52 := by
  rw [infinityBits, Nat.pow_eq]

/-- A finite number has a word below infinity, in which its significand and its exponent can be read. -/
theorem word_of_finite {significand : Nat} {exponent : Int}
    (hfinite : x.magnitude = .finite significand exponent) :
    ∃ place : Nat, exponent = place - 1074 ∧ x.word = place * 2 ^ 52 + significand ∧
      significand < 2 ^ 53 ∧ (place = 0 ∨ 2 ^ 52 ≤ significand) ∧ x.word < infinityBits := by
  have hword := x.word_lt
  have hexponent := x.biasedExponent_eq
  have hfraction := x.fraction_eq
  rw [infinityBits_eq]
  unfold magnitude at hfinite
  split at hfinite
  · split at hfinite <;> cases hfinite
  · split at hfinite
    · cases hfinite
      exact ⟨0, by omega, by omega, by omega, by omega, by omega⟩
    · obtain ⟨hsignificand, hplace⟩ := Magnitude.finite.inj hfinite
      rw [Nat.pow_eq] at hsignificand
      exact ⟨x.biasedExponent - 1, by omega, by omega, by omega, by omega, by omega⟩

theorem infinite_iff : x.magnitude = .infinite ↔ x.word = infinityBits := by
  have hword := x.word_lt
  have hexponent := x.biasedExponent_eq
  have hfraction := x.fraction_eq
  rw [infinityBits_eq]
  unfold magnitude
  split
  · split
    · exact iff_of_true rfl (by omega)
    · exact iff_of_false nofun (by omega)
  · split
    · exact iff_of_false nofun (by omega)
    · exact iff_of_false nofun (by omega)

theorem isNaN_iff : x.IsNaN ↔ infinityBits < x.word := by
  have hword := x.word_lt
  have hexponent := x.biasedExponent_eq
  have hfraction := x.fraction_eq
  rw [infinityBits_eq]
  unfold IsNaN magnitude
  split
  · split
    · exact iff_of_false nofun (by omega)
    · exact iff_of_true rfl (by omega)
  · split
    · exact iff_of_false nofun (by omega)
    · exact iff_of_false nofun (by omega)

/-- The least positive double. -/
def unit : ℚ :=
  2 ^ (-1074 : Int)

theorem unit_pos : 0 < unit :=
  zpow_pos two_pos _

/-- A power of two in units. -/
theorem zpow_eq_mul_unit (place : Nat) : (2 : ℚ) ^ ((place : Int) - 1074) = 2 ^ place * unit := by
  rw [unit, Int.sub_eq_add_neg, zpow_add₀ two_ne_zero, zpow_natCast]

/-- The absolute value of a number. That of infinity is where the finite numbers would go on. -/
def size (x : Binary64) : ℚ :=
  match x.magnitude with
  | .finite significand exponent => significand * 2 ^ exponent
  | _ => 2 ^ (1024 : Int)

/-- The number with its sign. -/
def value (x : Binary64) : ℚ :=
  if x.negative then -x.size else x.size

theorem size_eq (hnumber : ¬ x.IsNaN) : x.size = unitsAt x.word * unit := by
  unfold size
  split
  next significand exponent hfinite =>
    obtain ⟨place, rfl, hword, hlt, hnormal, _⟩ := word_of_finite hfinite
    rw [hword, unitsAt_eq (Nat.le_of_lt hlt) hnormal, zpow_eq_mul_unit, Nat.cast_mul, Nat.cast_pow,
      Nat.cast_ofNat, mul_assoc]
  next hnot =>
    have hinfinite : x.magnitude = .infinite := by
      cases hmagnitude : x.magnitude with
      | nan => exact absurd hmagnitude hnumber
      | infinite => rfl
      | finite significand exponent => exact absurd hmagnitude (hnot significand exponent)
    have hword : x.word = 2046 * 2 ^ 52 + 2 ^ 52 := by
      rw [infinite_iff.mp hinfinite, infinityBits_eq]
      omega
    have hunits (place : Nat) : unitsAt (place * 2 ^ 52 + 2 ^ 52) = 2 ^ (52 + place) :=
      (unitsAt_eq (by omega) (.inr (Nat.le_refl _))).trans (Nat.pow_add 2 52 place).symm
    rw [hword, hunits, Nat.cast_pow, Nat.cast_ofNat, ← zpow_eq_mul_unit]
    rfl

end Magnitude

end Binary64

end TreeDump
