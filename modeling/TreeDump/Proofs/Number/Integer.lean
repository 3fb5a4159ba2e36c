import TreeDump.Number.Numeral
import TreeDump.Proofs.Number.Numeral
import TreeDump.Proofs.Number.RoundTrip

namespace TreeDump

namespace Binary64

section Conversion

variable {negative : Bool} {exponent significand : Nat}

theorem ofFields_eq (negative : Bool) (exponent fraction : Nat) :
    ofFields negative exponent fraction = ofFields negative 0 (exponent * 2 ^ 52 + fraction) := by
  rw [ofFields, ofFields, Nat.zero_mul, Nat.add_zero, Nat.add_assoc, Nat.pow_eq (m := 2) (n := 52)]

/-- A normal number has the significand without its first bit as its fraction. -/
theorem magnitude_ofFields (hexponent : 0 < exponent) (hfinite : exponent < 2047)
    (hlow : 2 ^ 52 ≤ significand) (hhigh : significand < 2 ^ 53) :
    (ofFields negative exponent (significand - 2 ^ 52)).magnitude =
      .finite significand (exponent - 1075) := by
  have hword : (ofFields negative exponent (significand - 2 ^ 52)).word =
      exponent * 2 ^ 52 + (significand - 2 ^ 52) := by
    rw [ofFields_eq]
    exact word_ofFields negative (by omega)
  have hbiased := (ofFields negative exponent (significand - 2 ^ 52)).biasedExponent_eq
  have hfraction := (ofFields negative exponent (significand - 2 ^ 52)).fraction_eq
  rw [hword] at hbiased hfraction
  have hbiased' : (ofFields negative exponent (significand - 2 ^ 52)).biasedExponent = exponent := by omega
  have hfraction' :
      Nat.pow 2 52 + (ofFields negative exponent (significand - 2 ^ 52)).fraction = significand := by
    rw [Nat.pow_eq]
    omega
  rw [magnitude, hbiased', if_neg (by omega), if_neg (by omega), hfraction']

/-- An integer is written at the exponent at which its significand is full. -/
theorem scaled_bounds {size : Nat} (hpos : 0 < size) (hsmall : size < 2 ^ 53) :
    size.log2 ≤ 52 ∧ 2 ^ 52 ≤ size * 2 ^ (52 - size.log2) ∧ size * 2 ^ (52 - size.log2) < 2 ^ 53 := by
  have hlog : size.log2 ≤ 52 := by
    have hlt := (Nat.log2_lt (by omega)).mpr hsmall
    omega
  have hpower : 0 < 2 ^ (52 - size.log2) := Nat.two_pow_pos _
  refine ⟨hlog, ?_, ?_⟩
  · calc 2 ^ 52 = 2 ^ size.log2 * 2 ^ (52 - size.log2) := by
          rw [← Nat.pow_add, Nat.add_sub_cancel' hlog]
      _ ≤ size * 2 ^ (52 - size.log2) := Nat.mul_le_mul_right _ (Nat.log2_self_le (by omega))
  · calc size * 2 ^ (52 - size.log2) < 2 ^ (size.log2 + 1) * 2 ^ (52 - size.log2) :=
          Nat.mul_lt_mul_of_pos_right Nat.lt_log2_self hpower
      _ = 2 ^ 53 := by
          rw [← Nat.pow_add]
          congr 1
          omega

end Conversion

section Integer

variable {n : Int32}

theorem natAbs_toInt_lt (n : Int32) : n.toInt.natAbs < 2 ^ 53 := by
  have hlow := n.le_toInt
  have hhigh := n.toInt_lt
  omega

theorem ofInt32_of_ne_zero (hn : n.toInt.natAbs ≠ 0) :
    ofInt32 n = ofFields (decide (n.toInt < 0)) (n.toInt.natAbs.log2 + 1023)
      (n.toInt.natAbs * 2 ^ (52 - n.toInt.natAbs.log2) - 2 ^ 52) := by
  rw [ofInt32, if_neg hn]
  dsimp only
  rw [Nat.pow_eq, Nat.pow_eq]

theorem ofInt32_of_eq_zero (hzero : n.toInt.natAbs = 0) : ofInt32 n = signedZero false :=
  if_pos hzero

/-- The sign bit is set for negative integers only; in particular there is no negative zero. -/
theorem negative_ofInt32 (n : Int32) : (ofInt32 n).negative = decide (n.toInt < 0) := by
  by_cases hzero : n.toInt.natAbs = 0
  · rw [ofInt32_of_eq_zero hzero]
    exact (decide_eq_false (by omega)).symm
  · obtain ⟨hlog, hlow, hhigh⟩ := scaled_bounds (Nat.pos_of_ne_zero hzero) (natAbs_toInt_lt n)
    rw [ofInt32_of_ne_zero hzero, ofFields_eq]
    exact negative_ofFields _ (by omega)

/-- An integer is kept as that integer with so many binary places behind it. -/
theorem exists_magnitude_ofInt32 (n : Int32) :
    ∃ places : Nat, (ofInt32 n).magnitude = .finite (n.toInt.natAbs * 2 ^ places) (-places) := by
  by_cases hzero : n.toInt.natAbs = 0
  · obtain ⟨places, hplaces⟩ : ∃ places, places = 1074 := ⟨_, rfl⟩
    have hexponent : (-places : Int) = -1074 := by omega
    refine ⟨places, ?_⟩
    rw [ofInt32_of_eq_zero hzero, hzero, Nat.zero_mul, hexponent, magnitude_signedZero]
  · obtain ⟨hlog, hlow, hhigh⟩ := scaled_bounds (Nat.pos_of_ne_zero hzero) (natAbs_toInt_lt n)
    have hexponent : ((n.toInt.natAbs.log2 + 1023 : Nat) : Int) - 1075 =
        -((52 - n.toInt.natAbs.log2 : Nat) : Int) := by omega
    refine ⟨52 - n.toInt.natAbs.log2, ?_⟩
    rw [ofInt32_of_ne_zero hzero, magnitude_ofFields (by omega) (by omega) hlow hhigh, hexponent]

/-- The conversion is exact. -/
theorem value_ofInt32 (n : Int32) : (ofInt32 n).value = n.toInt := by
  have hsize : (ofInt32 n).size = n.toInt.natAbs := by
    obtain ⟨places, hmagnitude⟩ := exists_magnitude_ofInt32 n
    have hpower : (2 : ℚ) ^ places ≠ 0 := pow_ne_zero _ two_ne_zero
    rw [size, hmagnitude]
    dsimp only
    rw [zpow_neg, zpow_natCast, Nat.cast_mul, Nat.cast_pow, Nat.cast_ofNat, mul_assoc,
      mul_inv_cancel₀ hpower, mul_one]
  rw [value, negative_ofInt32, hsize]
  by_cases hnegative : n.toInt < 0
  · have habs : -(n.toInt.natAbs : Int) = n.toInt := by omega
    rw [if_pos (decide_eq_true hnegative), ← Int.cast_natCast, ← Int.cast_neg, habs]
  · have habs : (n.toInt.natAbs : Int) = n.toInt := by omega
    rw [if_neg (by simpa using hnegative), ← Int.cast_natCast, habs]

end Integer

end Binary64

namespace RoundingInterval

variable {whole places : Nat}

theorem quarter_neg (places : Nat) : quarter (-places) = 5 ^ (places + 2) := by
  have hexponent : (2 - -(places : Int)).toNat = places + 2 := by omega
  rw [quarter, if_neg (by omega), hexponent, Nat.pow_eq]

/-- The step of the grid of whole numbers. -/
theorem wholeStep_eq (places : Nat) : 10 ^ (places + 2) = 4 * 2 ^ places * quarter (-places) := by
  rw [quarter_neg, Nat.mul_pow 2 5, Nat.pow_add 2 places 2, Nat.mul_comm 4]

/-- A whole number lies on the grid of whole numbers. -/
theorem around_whole_value (whole places : Nat) :
    (around (whole * 2 ^ places) (-places)).value = whole * 10 ^ (places + 2) := by
  rw [around_value, wholeStep_eq]
  ring

/-- Half a place to either side there is no other whole number. -/
theorem eq_whole_of_contains {n : Nat} (hpos : 0 < whole)
    (hcontains : (around (whole * 2 ^ places) (-places)).contains (n * 10 ^ (places + 2)) = true) :
    n = whole := by
  have hscaled : 0 < whole * 2 ^ places := Nat.mul_pos hpos (Nat.two_pow_pos places)
  obtain ⟨hlow, hhigh, _⟩ := (centred_around hscaled).contains_iff.mp hcontains
  have hvalue := around_whole_value whole places
  have hgap := (quartersBelow_le (whole * 2 ^ places) (-places)).2
  have hnarrow : 2 * quarter (-places) < 10 ^ (places + 2) := by
    have hone : 0 < 2 ^ places := Nat.two_pow_pos places
    rw [wholeStep_eq]
    exact Nat.mul_lt_mul_of_pos_right (by omega) (quarter_pos (-places))
  rw [around_value] at hvalue
  rw [around_high, Nat.add_mul, hvalue] at hhigh
  have hlow' : whole * 10 ^ (places + 2) ≤ n * 10 ^ (places + 2) + 2 * quarter (-places) := by
    rw [around_low, Nat.sub_mul, hvalue] at hlow
    have hwidth := Nat.mul_le_mul_right (quarter (-places)) hgap
    omega
  refine Nat.le_antisymm (Nat.lt_succ_iff.mp ?_) (Nat.lt_succ_iff.mp ?_)
  · refine Nat.lt_of_mul_lt_mul_right ?_ (a := 10 ^ (places + 2))
    rw [Nat.succ_mul]
    omega
  · refine Nat.lt_of_mul_lt_mul_right ?_ (a := 10 ^ (places + 2))
    rw [Nat.succ_mul]
    omega

end RoundingInterval

/-- The shortest decimal of a whole number is that number. -/
theorem Decimal.shortest_whole {whole : Nat} (hpos : 0 < whole) (places : Nat) :
    ∃ digits zeros : Nat, shortest (whole * 2 ^ places) (-places) = ⟨digits, zeros⟩ ∧
      digits * 10 ^ zeros = whole := by
  have hscaled : 0 < whole * 2 ^ places := Nat.mul_pos hpos (Nat.two_pow_pos places)
  have hcentred : (RoundingInterval.around (whole * 2 ^ places) (-places)).Centred :=
    RoundingInterval.centred_around hscaled
  have hunit : (RoundingInterval.around (whole * 2 ^ places) (-places)).unitExponent = -places - 2 :=
    if_neg (by omega)
  have hvalue := RoundingInterval.around_whole_value whole places
  obtain ⟨place, digits, heq, hcoarsest⟩ := shortest_eq hscaled (-places)
  -- The number itself is on the grid of whole numbers, so no finer grid is reached.
  have hreached : places + 2 ≤ place := by
    by_contra hfiner
    have htop : places + 2 ≤ (RoundingInterval.around (whole * 2 ^ places) (-places)).topPlace := by
      have hbelow := RoundingInterval.value_lt_topPlace (.around (whole * 2 ^ places) (-places))
      have hle : 10 ^ (places + 2) ≤ whole * 10 ^ (places + 2) := Nat.le_mul_of_pos_left _ hpos
      rw [hvalue] at hbelow
      exact Nat.le_of_lt ((Nat.pow_lt_pow_iff_right (by omega)).mp (Nat.lt_of_le_of_lt hle hbelow))
    have hpoint := hcentred.contains_value
    rw [hvalue] at hpoint
    exact hcoarsest.coarser (places + 2) (by omega) htop whole hpoint
  obtain ⟨zeros, rfl⟩ := Nat.exists_eq_add_of_le hreached
  have hexponent : -(places : Int) - 2 + (places + 2 + zeros : Nat) = zeros := by omega
  rw [hunit, hexponent] at heq
  refine ⟨digits, zeros, heq, ?_⟩
  have hpoint := hcoarsest.contains
  rw [Nat.add_comm, Nat.pow_add, ← Nat.mul_assoc] at hpoint
  exact RoundingInterval.eq_whole_of_contains hpos hpoint

theorem Decimal.positional_shortest_whole (whole places : Nat) :
    (shortest (whole * 2 ^ places) (-places)).positional [] = Nat.toDigits 10 whole := by
  obtain rfl | hpos := Nat.eq_zero_or_pos whole
  · rw [Nat.zero_mul, shortest, if_pos rfl]
    rfl
  · obtain ⟨digits, zeros, heq, hwhole⟩ := shortest_whole hpos places
    have htrimmed : Trimmed ⟨digits, zeros⟩ := by
      rw [← heq]
      exact trimmed_shortest _ _
    rw [heq, positional_whole htrimmed (Int.natCast_nonneg zeros), Int.toNat_natCast, hwhole]

/-- The text of the double is the numeral of the integer. -/
theorem Binary64.toList_text_ofInt32 (n : Int32) :
    (ofInt32 n).text.toList = Decimal.integerChars n.toInt := by
  obtain ⟨places, hmagnitude⟩ := exists_magnitude_ofInt32 n
  have hdigits : (Decimal.shortest (n.toInt.natAbs * 2 ^ places) (-places)).write .plain =
      Nat.toDigits 10 n.toInt.natAbs := Decimal.positional_shortest_whole _ _
  rw [text, String.toList_ofList, write, hmagnitude]
  dsimp only
  rw [hdigits, negative_ofInt32, Decimal.integerChars]
  by_cases hnegative : n.toInt < 0
  · rw [if_pos (decide_eq_true hnegative), if_pos hnegative]
  · rw [if_neg (by simpa using hnegative), if_neg hnegative]

/-- The characters of an integer are those of a plain numeral without a point. -/
theorem Decimal.integerChars_eq_chars (n : Int) :
    integerChars n = (PlainNumeral.ofNat (decide (n < 0)) n.natAbs).chars := by
  have hnegative : (PlainNumeral.ofNat (decide (n < 0)) n.natAbs).negative = decide (n < 0) := rfl
  rw [integerChars, PlainNumeral.chars, PlainNumeral.digits_ofNat, hnegative]
  by_cases hn : n < 0
  · rw [if_pos hn, if_pos (decide_eq_true hn)]
  · rw [if_neg hn, if_neg (by simpa using hn)]

theorem Decimal.toList_repr (n : Int) : n.repr.toList = integerChars n := by
  unfold integerChars
  split
  next hnegative =>
    have habs : (-n).toNat = n.natAbs := by omega
    rw [Int.repr_eq_if, if_neg (by omega), String.toList_append, Nat.toList_repr, habs]
    rfl
  next hnatural =>
    have habs : n.toNat = n.natAbs := by omega
    rw [Int.repr_eq_if, if_pos (by omega), Nat.toList_repr, habs]

/-- Integers of 64 bits are read back from their numerals. -/
theorem Numeral.readInt64_integerChars {n : Int} (hlow : -2 ^ 63 ≤ n) (hhigh : n < 2 ^ 63) :
    readInt64 (Decimal.integerChars n) = .ok n := by
  unfold Decimal.integerChars
  split
  next hnegative =>
    obtain ⟨c, digits, hdigits, _⟩ := exists_toDigits_eq_cons n.natAbs
    have hle : n.natAbs ≤ Nat.pow 2 63 := by
      rw [Nat.pow_eq]
      omega
    have hread := readDigits_toDigits .tooSmall hle
    have habs : -(n.natAbs : Int) = n := by omega
    rw [hdigits] at hread ⊢
    rw [readInt64, readSigned, hread]
    · exact congrArg Except.ok habs
    · exact List.cons_ne_nil _ _
  next hnatural =>
    have hle : n.natAbs ≤ Nat.pow 2 63 - 1 := by
      rw [Nat.pow_eq]
      omega
    have habs : (n.natAbs : Int) = n := by omega
    rw [readInt64_toDigits hle, habs]

namespace Binary64

/-- The two zeros are the same number. -/
theorem value_signedZero (negative : Bool) : (signedZero negative).value = 0 := by
  have hsize : (signedZero negative).size = 0 := by
    rw [size, magnitude_signedZero]
    dsimp only
    rw [Nat.cast_zero, zero_mul]
  rw [value, hsize]
  split
  · exact neg_zero
  · rfl

theorem value_eq_of_beq {x y : Binary64} (hbeq : (x == y) = true) : x.value = y.value := by
  obtain ⟨_, rfl | ⟨negative, negative', rfl, rfl⟩⟩ := beq_iff.mp hbeq
  · rfl
  · rw [value_signedZero, value_signedZero]

theorem eq_of_value_ofInt32 {m n : Int32} (heq : (ofInt32 m).value = (ofInt32 n).value) : m = n := by
  rw [value_ofInt32, value_ofInt32, Int.cast_inj] at heq
  exact Int32.toInt_inj.mp heq

end Binary64

namespace Scalar

/-- Every integer of 32 bits is kept as a double of the same value. Its text is the numeral of the integer:
    a plain numeral with a minus sign for negative integers only and nothing behind a point, from which the
    integer and the double are read again. The text is what the last line of a literal shows, whatever
    the depth and the indent. Two such scalars are equal, or have the same text, for the same integer
    only. -/
theorem ofInt32_keeps_integers (n : Int32) :
    let text := (Scalar.ofInt32 n).text
    (∃ x significand exponent, Scalar.ofInt32 n = .number x ∧
      x.magnitude = .finite significand exponent ∧ x.value = n.toInt ∧
        Binary64.read? text.toList = some x) ∧
      text = n.toInt.repr ∧
      (∃ numeral : PlainNumeral, text.toList = numeral.chars ∧
        (numeral.negative = true ↔ n.toInt < 0) ∧ numeral.fractional = [] ∧
          numeral.size = n.toInt.natAbs) ∧
      Numeral.readInt64 text.toList = .ok n.toInt ∧
      (∀ (indent : Indent) (depth : Depth),
        ∃ header kind, dumpedLines indent depth (Literal.holding (.ofInt32 n)) =
          [header, kind, indent.times (min (depth.level + 1) Depth.limit) ++ ("value: " ++ text)]) ∧
      ∀ m : Int32, ((Scalar.ofInt32 m == Scalar.ofInt32 n) = true ↔ m = n) ∧
        ((Scalar.ofInt32 m).text = text ↔ m = n) := by
  intro text
  have hchars : text.toList = Decimal.integerChars n.toInt := Binary64.toList_text_ofInt32 n
  obtain ⟨places, hmagnitude⟩ := Binary64.exists_magnitude_ofInt32 n
  refine ⟨⟨.ofInt32 n, _, _, rfl, hmagnitude, Binary64.value_ofInt32 n,
    Binary64.read?_text_of_finite hmagnitude⟩, ?_, ?_, ?_, ?_, fun m => ⟨?_, ?_⟩⟩
  · rw [← String.toList_inj, hchars, Decimal.toList_repr]
  · refine ⟨.ofNat (decide (n.toInt < 0)) n.toInt.natAbs, ?_, decide_eq_true_iff, rfl, ?_⟩
    · rw [hchars, Decimal.integerChars_eq_chars]
    · exact PlainNumeral.size_ofNat _ _
  · have hlow := n.le_toInt
    have hhigh := n.toInt_lt
    rw [hchars]
    exact Numeral.readInt64_integerChars (by omega) (by omega)
  · exact fun indent depth => ⟨_, _, Literal.dumpedLines_eq indent depth (.holding (.ofInt32 n))⟩
  · constructor
    · intro hbeq
      exact Binary64.eq_of_value_ofInt32 (Binary64.value_eq_of_beq hbeq)
    · rintro rfl
      refine beq_self_iff.mpr ?_
      rintro ⟨x, hx, hnan⟩
      cases hx
      rw [Binary64.IsNaN, hmagnitude] at hnan
      cases hnan
  · constructor
    · intro heq
      have hsame : Binary64.ofInt32 n = Binary64.ofInt32 m :=
        Binary64.eq_of_text_eq_of_finite hmagnitude heq.symm
      exact Binary64.eq_of_value_ofInt32 (congrArg Binary64.value hsame.symm)
    · rintro rfl
      rfl

end Scalar

end TreeDump
