import TreeDump.Number.Reading
import TreeDump.Proofs.Number.Plain
import TreeDump.Proofs.Number.Shortest

namespace TreeDump

section Digits

variable {n : Nat}

/-- Only zero begins with a zero. -/
theorem head?_toDigits (hpos : 0 < n) : (Nat.toDigits 10 n).head? ≠ some '0' := by
  induction n using Nat.base_induction 10 (by omega) with
  | single m hm =>
    rw [Nat.toDigits_of_lt_base hm, List.head?_cons, ne_eq, Option.some_inj, Nat.digitChar_eq_zero]
    omega
  | digit m k hk hm ih =>
    rw [← Nat.toDigits_append_toDigits (by omega) hm hk, List.head?_append_of_ne_nil _ Nat.toDigits_ne_nil]
    exact ih hm

theorem getLast?_toDigits (n : Nat) : (Nat.toDigits 10 n).getLast? = some (Nat.digitChar (n % 10)) := by
  rw [Nat.toDigits_eq_if (by omega)]
  split
  next hlt => rw [Nat.mod_eq_of_lt hlt, List.getLast?_singleton]
  next => rw [List.getLast?_append_of_ne_nil _ (by simp), List.getLast?_singleton]

/-- Zeros behind the digits of a number are powers of ten. -/
theorem toDigits_mul_pow (hpos : 0 < n) (places : Nat) :
    Nat.toDigits 10 (n * 10 ^ places) = Nat.toDigits 10 n ++ List.replicate places '0' := by
  induction places with
  | zero => rw [Nat.pow_zero, Nat.mul_one, List.replicate_zero, List.append_nil]
  | succ places ih =>
    have hprevious : 0 < n * 10 ^ places := Nat.mul_pos hpos (Nat.pow_pos (by omega))
    have hshift : n * 10 ^ (places + 1) = 10 * (n * 10 ^ places) + 0 := by
      rw [Nat.pow_succ, ← Nat.mul_assoc, Nat.mul_comm, Nat.add_zero]
    rw [hshift, ← Nat.toDigits_append_toDigits (by omega) hprevious (by omega), ih, List.append_assoc,
      List.replicate_succ', Nat.toDigits_zero]

end Digits

/-- A numeral in plain decimal. There is at least one digit before the point, none of those that can be left
    out is a zero, and the point is left out where no digit follows. -/
structure PlainNumeral where
  negative : Bool
  whole : List Char
  fractional : List Char
  whole_ne_nil : whole ≠ []
  isDigit_whole : ∀ c ∈ whole, c.isDigit = true
  isDigit_fractional : ∀ c ∈ fractional, c.isDigit = true
  leading_zero : whole.head? = some '0' → whole = ['0']
  trailing_zero : fractional.getLast? ≠ some '0'

namespace PlainNumeral

/-- The numeral without its sign. -/
def digits (numeral : PlainNumeral) : List Char :=
  numeral.whole ++ if numeral.fractional = [] then [] else '.' :: numeral.fractional

def chars (numeral : PlainNumeral) : List Char :=
  if numeral.negative then '-' :: numeral.digits else numeral.digits

/-- The number that the digits denote. -/
def size (numeral : PlainNumeral) : ℚ :=
  Nat.ofDigitChars 10 numeral.whole 0 +
    Nat.ofDigitChars 10 numeral.fractional 0 / 10 ^ numeral.fractional.length

/-- The same number with all its digits before the point. -/
theorem size_eq (numeral : PlainNumeral) :
    numeral.size =
      Nat.ofDigitChars 10 (numeral.whole ++ numeral.fractional) 0 / 10 ^ numeral.fractional.length := by
  have hten : (10 : ℚ) ^ numeral.fractional.length ≠ 0 := pow_ne_zero _ (by norm_num)
  have hdigits : Nat.ofDigitChars 10 numeral.fractional (Nat.ofDigitChars 10 numeral.whole 0) =
      10 ^ numeral.fractional.length * Nat.ofDigitChars 10 numeral.whole 0 +
        Nat.ofDigitChars 10 numeral.fractional 0 := Nat.ofDigitChars_eq_ofDigitChars_zero
  rw [size, Nat.ofDigitChars_append, hdigits, add_div' _ _ _ hten]
  push_cast
  rw [mul_comm]

/-- The numeral of a whole number. -/
def ofNat (negative : Bool) (n : Nat) : PlainNumeral where
  negative := negative
  whole := Nat.toDigits 10 n
  fractional := []
  whole_ne_nil := Nat.toDigits_ne_nil
  isDigit_whole _ hc := Nat.isDigit_of_mem_toDigits (by omega) (by omega) hc
  isDigit_fractional _ hc := nomatch hc
  leading_zero hzero := by
    obtain rfl | hpos := Nat.eq_zero_or_pos n
    · exact Nat.toDigits_zero 10
    · exact absurd hzero (head?_toDigits hpos)
  trailing_zero := nofun

theorem digits_ofNat (negative : Bool) (n : Nat) : (ofNat negative n).digits = Nat.toDigits 10 n :=
  List.append_nil _

theorem size_ofNat (negative : Bool) (n : Nat) : (ofNat negative n).size = n := by
  have hread : Nat.ofDigitChars 10 (Nat.toDigits 10 n) 0 = n := Nat.ofDigitChars_ten_toDigits
  rw [size_eq, ofNat, List.append_nil, hread, List.length_nil, pow_zero, div_one]

end PlainNumeral

namespace Decimal

variable {d : Decimal}

/-- A decimal with a power of ten that is not negative is a whole number. -/
theorem positional_whole (htrimmed : d.Trimmed) (hwhole : 0 ≤ d.exponent) :
    d.positional [] = Nat.toDigits 10 (d.digits * 10 ^ d.exponent.toNat) := by
  rw [positional, if_pos hwhole, List.append_nil, digitChars]
  obtain hlast | rfl := htrimmed
  · exact (toDigits_mul_pow (by omega) _).symm
  · rfl

theorem value_whole (hwhole : 0 ≤ d.exponent) : d.value = (d.digits * 10 ^ d.exponent.toNat : Nat) := by
  have hexponent : (d.exponent.toNat : Int) = d.exponent := Int.toNat_of_nonneg hwhole
  rw [value, ← hexponent, zpow_natCast]
  push_cast
  rfl

/-- Digits behind the point, as many as the power of ten is negative, make a fraction of them all. -/
theorem size_eq_value {numeral : PlainNumeral}
    (hdigits : Nat.ofDigitChars 10 (numeral.whole ++ numeral.fractional) 0 = d.digits)
    (hlength : (numeral.fractional.length : Int) = -d.exponent) : numeral.size = d.value := by
  have hexponent : d.exponent = -numeral.fractional.length := by omega
  rw [PlainNumeral.size_eq, hdigits, value, hexponent, zpow_neg, zpow_natCast, div_eq_mul_inv]

theorem getLast?_digitChars (hlast : d.digits % 10 ≠ 0) : d.digitChars.getLast? ≠ some '0' := by
  rw [digitChars, getLast?_toDigits, ne_eq, Option.some_inj, Nat.digitChar_eq_zero]
  exact hlast

/-- The point stands between the digits. -/
theorem exists_plainNumeral_split (hlast : d.digits % 10 ≠ 0) (hnegative : d.exponent < 0)
    (hpoint : 0 < d.digitChars.length + d.exponent) (negative : Bool) :
    ∃ numeral : PlainNumeral, numeral.negative = negative ∧ numeral.digits = d.positional [] ∧
      numeral.size = d.value := by
  obtain ⟨places, hplaces⟩ : ∃ places, (d.digitChars.length + d.exponent).toNat = places := ⟨_, rfl⟩
  have hlength : (d.digitChars.drop places).length = d.digitChars.length - places := List.length_drop
  have hfractional : d.digitChars.drop places ≠ [] := List.length_pos_iff.mp (by omega)
  have hhead : (d.digitChars.take places).head? = d.digitChars.head? := by
    rw [List.head?_take, if_neg (by omega)]
  have htail : (d.digitChars.drop places).getLast? = d.digitChars.getLast? := by
    rw [List.getLast?_drop, if_neg (by omega)]
  have hwritten : d.positional [] = d.digitChars.take places ++ '.' :: d.digitChars.drop places := by
    rw [positional, if_neg (by omega), if_pos hpoint, hplaces]
  refine ⟨⟨negative, d.digitChars.take places, d.digitChars.drop places, ?_, ?_, ?_, ?_, ?_⟩, rfl, ?_, ?_⟩
  · refine List.length_pos_iff.mp ?_
    rw [List.length_take]
    omega
  · exact fun c hc => isDigit_of_mem_digitChars (List.mem_of_mem_take hc)
  · exact fun c hc => isDigit_of_mem_digitChars (List.mem_of_mem_drop hc)
  · intro hzero
    rw [hhead] at hzero
    exact absurd hzero (head?_toDigits (by omega))
  · rw [htail]
    exact getLast?_digitChars hlast
  · rw [PlainNumeral.digits, if_neg hfractional, hwritten]
  · refine size_eq_value ?_ ?_
    · rw [List.take_append_drop]
      exact Nat.ofDigitChars_ten_toDigits
    · rw [hlength]
      omega

/-- All digits stand behind the point, and zeros between it and them. -/
theorem exists_plainNumeral_small (hlast : d.digits % 10 ≠ 0)
    (hpoint : d.digitChars.length + d.exponent ≤ 0) (negative : Bool) :
    ∃ numeral : PlainNumeral, numeral.negative = negative ∧ numeral.digits = d.positional [] ∧
      numeral.size = d.value := by
  have hsome : 0 < d.digitChars.length := Nat.length_toDigits_pos
  obtain ⟨zeros, hzeros⟩ : ∃ zeros, (-(d.digitChars.length + d.exponent)).toNat = zeros := ⟨_, rfl⟩
  have hdigits : d.digitChars ≠ [] := Nat.toDigits_ne_nil
  have hwritten : d.positional [] = '0' :: '.' :: (List.replicate zeros '0' ++ d.digitChars) := by
    rw [positional, if_neg (by omega), if_neg (by omega), hzeros]
  refine ⟨⟨negative, ['0'], List.replicate zeros '0' ++ d.digitChars, ?_, ?_, ?_, ?_, ?_⟩, rfl, ?_, ?_⟩
  · exact List.cons_ne_nil _ _
  · intro c hc
    rw [List.mem_singleton.mp hc]
    rfl
  · intro c hc
    obtain hzero | hdigit := List.mem_append.mp hc
    · rw [(List.mem_replicate.mp hzero).2]
      rfl
    · exact isDigit_of_mem_digitChars hdigit
  · exact fun _ => rfl
  · rw [List.getLast?_append_of_ne_nil _ hdigits]
    exact getLast?_digitChars hlast
  · rw [PlainNumeral.digits, if_neg (List.append_ne_nil_of_right_ne_nil _ hdigits), hwritten]
    rfl
  · refine size_eq_value ?_ ?_
    · rw [← List.append_assoc, Nat.ofDigitChars_append]
      have hread : Nat.ofDigitChars 10 d.digitChars 0 = d.digits := Nat.ofDigitChars_ten_toDigits
      have hfront : Nat.ofDigitChars 10 (['0'] ++ List.replicate zeros '0') 0 = 0 := by
        rw [Nat.ofDigitChars_append, Nat.ofDigitChars_replicate_zero]
        rfl
      rw [hfront, hread]
    · rw [List.length_append, List.length_replicate]
      omega

/-- A decimal without zeros at its end is written as a plain numeral of the same number. -/
theorem exists_plainNumeral (htrimmed : d.Trimmed) (negative : Bool) :
    ∃ numeral : PlainNumeral, numeral.negative = negative ∧ numeral.digits = d.positional [] ∧
      numeral.size = d.value := by
  by_cases hwhole : 0 ≤ d.exponent
  · refine ⟨.ofNat negative (d.digits * 10 ^ d.exponent.toNat), rfl, ?_, ?_⟩
    · rw [PlainNumeral.digits_ofNat, positional_whole htrimmed hwhole]
    · rw [PlainNumeral.size_ofNat, value_whole hwhole]
  · have hlast : d.digits % 10 ≠ 0 := by
      obtain hlast | rfl := htrimmed
      · exact hlast
      · exact absurd (Int.le_refl 0) hwhole
    by_cases hpoint : 0 < d.digitChars.length + d.exponent
    · exact exists_plainNumeral_split hlast (by omega) hpoint negative
    · exact exists_plainNumeral_small hlast (by omega) negative

end Decimal

namespace PlainNumeral

/-- The digits before the point are those that are read first. -/
theorem takeWhile_digits (numeral : PlainNumeral) :
    numeral.digits.takeWhile Char.isDigit = numeral.whole := by
  rw [digits, List.takeWhile_append_of_pos numeral.isDigit_whole]
  split
  · exact List.append_nil _
  · exact List.append_nil _

/-- Reading the digits gives a decimal of the number that they denote. -/
theorem read?_digits (numeral : PlainNumeral) :
    ∃ d : Decimal, Decimal.read? numeral.digits = some d ∧ d.value = numeral.size := by
  have hdrop : numeral.digits.drop numeral.whole.length =
      if numeral.fractional = [] then [] else '.' :: numeral.fractional := by
    rw [digits, List.drop_left]
  have hwhole : numeral.whole.isEmpty = false := Bool.eq_false_iff.mpr fun hempty =>
    numeral.whole_ne_nil (List.isEmpty_iff.mp hempty)
  unfold Decimal.read?
  dsimp only
  rw [numeral.takeWhile_digits, if_neg (Bool.eq_false_iff.mp hwhole), hdrop]
  by_cases hfractional : numeral.fractional = []
  · rw [if_pos hfractional]
    refine ⟨_, rfl, (Decimal.size_eq_value ?_ ?_).symm⟩
    · rw [hfractional, List.append_nil]
    · rw [hfractional]
      rfl
  · have hall : numeral.fractional.all Char.isDigit = true :=
      List.all_eq_true.mpr numeral.isDigit_fractional
    have hempty : numeral.fractional.isEmpty = false := Bool.eq_false_iff.mpr fun hempty =>
      hfractional (List.isEmpty_iff.mp hempty)
    rw [if_neg hfractional]
    simp only [hempty, hall]
    refine ⟨_, rfl, (Decimal.size_eq_value rfl ?_).symm⟩
    exact (Int.neg_neg _).symm

/-- Reading a numeral gives the double nearest to the number that it denotes. -/
theorem exists_read?_eq_some (numeral : PlainNumeral) :
    ∃ x, Binary64.read? numeral.chars = some x ∧ x.Nearest numeral.negative numeral.size := by
  obtain ⟨d, hread, hvalue⟩ := numeral.read?_digits
  have hnearest := Binary64.nearest_ofDecimal numeral.negative d
  rw [hvalue] at hnearest
  refine ⟨Binary64.ofDecimal numeral.negative d, ?_, hnearest⟩
  cases hsign : numeral.negative with
  | true => rw [chars, hsign, if_pos rfl, Binary64.read?, hread, Option.map_some]
  | false =>
    obtain ⟨c, rest, hwhole⟩ := List.exists_cons_of_ne_nil numeral.whole_ne_nil
    have hdigit : c.isDigit = true := numeral.isDigit_whole c (by rw [hwhole]; exact List.mem_cons_self)
    have hminus : c ≠ '-' := by
      rintro rfl
      exact absurd hdigit (by decide)
    have hdigits : ∃ rest', numeral.digits = c :: rest' := by
      rw [digits, hwhole]
      exact ⟨_, List.cons_append⟩
    obtain ⟨rest', hdigits⟩ := hdigits
    rw [chars, hsign, if_neg Bool.false_ne_true]
    unfold Binary64.read?
    split
    next hsigned =>
      rw [hdigits] at hsigned
      exact absurd (List.cons.inj hsigned).1 hminus
    next => rw [hread, Option.map_some]

end PlainNumeral

end TreeDump
