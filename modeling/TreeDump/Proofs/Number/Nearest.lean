import Mathlib.Algebra.Order.AbsoluteValue.Basic
import Mathlib.Data.Nat.Cast.Order.Field
import Mathlib.Tactic.FieldSimp
import Mathlib.Tactic.Linarith
import Mathlib.Tactic.Positivity
import TreeDump.Proofs.Number.Scale

namespace TreeDump

namespace Binary64

/-- The double nearest to a number, which is given by its sign and its absolute value. Of two that are
    equally near it is the one with the even significand, and infinity stands where the finite numbers
    would go on. The sign is kept, also where zero is the nearest. -/
structure Nearest (negative : Bool) (q : ℚ) (x : Binary64) : Prop where
  negative_eq : x.negative = negative
  number : ¬ x.IsNaN
  closest : ∀ y : Binary64, ¬ y.IsNaN → |q - x.size| ≤ |q - y.size|
  tie_even : ∀ y : Binary64, ¬ y.IsNaN → |q - x.size| = |q - y.size| →
    y.size = x.size ∨ x.fraction % 2 = 0

/-- The word nearest to a number of units. -/
structure NearestWord (v : ℚ) (word : Nat) : Prop where
  le : word ≤ infinityBits
  closest : ∀ other ≤ infinityBits, |v - unitsAt word| ≤ |v - unitsAt other|
  tie_even : ∀ other ≤ infinityBits, |v - unitsAt word| = |v - unitsAt other| →
    other = word ∨ word % 2 = 0

section Words

variable {v : ℚ} {word : Nat}

theorem unitsAt_lt_cast {word word' : Nat} (hlt : word < word') : (unitsAt word : ℚ) < unitsAt word' :=
  Nat.cast_lt.mpr (strictMono_unitsAt hlt)

theorem unitsAt_le_cast {word word' : Nat} (hle : word ≤ word') : (unitsAt word : ℚ) ≤ unitsAt word' :=
  Nat.cast_le.mpr (strictMono_unitsAt.monotone hle)

/-- A word is the nearest if the number is not beyond the midpoints to the two words beside it, and at a
    midpoint only if the word is even. -/
theorem nearestWord_of_midpoints (hle : word ≤ infinityBits)
    (hbelow : ∀ previous, previous + 1 = word → (unitsAt previous + unitsAt word : ℚ) ≤ 2 * v ∧
      ((unitsAt previous + unitsAt word : ℚ) = 2 * v → word % 2 = 0))
    (habove : word < infinityBits → 2 * v ≤ unitsAt word + unitsAt (word + 1) ∧
      (2 * v = unitsAt word + unitsAt (word + 1) → word % 2 = 0)) : NearestWord v word := by
  have hothers : ∀ other ≤ infinityBits, other ≠ word → |v - unitsAt word| ≤ |v - unitsAt other| ∧
      (|v - unitsAt word| = |v - unitsAt other| → word % 2 = 0) := by
    intro other hother hne
    obtain hlt | hgt := Nat.lt_or_gt_of_ne hne
    · obtain ⟨hmidpoint, heven⟩ := hbelow (word - 1) (by omega)
      have hprevious : (unitsAt other : ℚ) ≤ unitsAt (word - 1) := unitsAt_le_cast (by omega)
      have hword : (unitsAt (word - 1) : ℚ) < unitsAt word := unitsAt_lt_cast (by omega)
      have hdistance : |v - unitsAt other| = v - unitsAt other := abs_of_nonneg (by linarith)
      rw [hdistance]
      refine ⟨abs_le.mpr ⟨by linarith, by linarith⟩, fun heq => heven ?_⟩
      obtain hright | hleft := abs_choice (v - unitsAt word)
      · linarith
      · linarith
    · obtain ⟨hmidpoint, heven⟩ := habove (by omega)
      have hnext : (unitsAt (word + 1) : ℚ) ≤ unitsAt other := unitsAt_le_cast (by omega)
      have hword : (unitsAt word : ℚ) < unitsAt (word + 1) := unitsAt_lt_cast (by omega)
      have hdistance : |v - unitsAt other| = unitsAt other - v := by
        rw [abs_sub_comm]
        exact abs_of_nonneg (by linarith)
      rw [hdistance]
      refine ⟨abs_le.mpr ⟨by linarith, by linarith⟩, fun heq => heven ?_⟩
      obtain hright | hleft := abs_choice (v - unitsAt word)
      · linarith
      · linarith
  refine ⟨hle, fun other hother => ?_, fun other hother heq => ?_⟩
  · by_cases hsame : other = word
    · rw [hsame]
    · exact (hothers other hother hsame).1
  · by_cases hsame : other = word
    · exact .inl hsame
    · exact .inr ((hothers other hother hsame).2 heq)

/-- Two words that are nearest would both be even, and the odd word between them nearer. -/
theorem NearestWord.not_lt {word' : Nat} (hword : NearestWord v word) (hword' : NearestWord v word') :
    ¬ word < word' := by
  intro hlt
  have heq : |v - unitsAt word| = |v - unitsAt word'| :=
    le_antisymm (hword.closest word' hword'.le) (hword'.closest word hword.le)
  have heven : word % 2 = 0 := (hword.tie_even word' hword'.le heq).resolve_left (by omega)
  have heven' : word' % 2 = 0 := (hword'.tie_even word hword.le heq.symm).resolve_left (by omega)
  have hbetween : word + 1 < word' := by omega
  have hfirst : (unitsAt word : ℚ) < unitsAt (word + 1) := unitsAt_lt_cast (by omega)
  have hsecond : (unitsAt (word + 1) : ℚ) < unitsAt word' := unitsAt_lt_cast hbetween
  have hcloser := hword.closest (word + 1) (Nat.le_trans (Nat.le_of_lt hbetween) hword'.le)
  have hmidpoint : 2 * v = unitsAt word + unitsAt word' := by
    obtain hsame | hopposite := abs_eq_abs.mp heq
    · linarith
    · linarith
  rw [abs_of_nonneg (by linarith)] at hcloser
  have hinside : |v - unitsAt (word + 1)| < v - unitsAt word := abs_lt.mpr ⟨by linarith, by linarith⟩
  exact absurd hcloser (not_le.mpr hinside)

theorem NearestWord.unique {word' : Nat} (hword : NearestWord v word) (hword' : NearestWord v word') :
    word = word' :=
  Nat.le_antisymm (Nat.le_of_not_lt (hword'.not_lt hword)) (Nat.le_of_not_lt (hword.not_lt hword'))

theorem nearestWord_zero : NearestWord 0 0 := by
  have hzero : (unitsAt 0 : ℚ) = 0 := by
    rw [unitsAt, if_pos (by omega), Nat.cast_zero]
  have hnext : (unitsAt 0 : ℚ) < unitsAt (0 + 1) := unitsAt_lt_cast (by omega)
  refine nearestWord_of_midpoints (Nat.zero_le _) (fun previous hprevious => ?_) fun _ => ?_
  · omega
  · exact ⟨by linarith, fun _ => rfl⟩

theorem nearestWord_of_infinity_le (hle : unitsAt infinityBits ≤ v) : NearestWord v infinityBits := by
  refine nearestWord_of_midpoints (Nat.le_refl _) (fun previous hprevious => ?_) fun hlt => ?_
  · have hless : (unitsAt previous : ℚ) < unitsAt infinityBits := unitsAt_lt_cast (by omega)
    exact ⟨by linarith, fun heq => by linarith⟩
  · exact absurd hlt (Nat.lt_irrefl _)

/-- Between two words the lower is the nearest up to the midpoint, unless infinity comes before. -/
theorem nearestWord_lower (hlow : unitsAt word ≤ v) (hhigh : 2 * v ≤ unitsAt word + unitsAt (word + 1))
    (heven : 2 * v = unitsAt word + unitsAt (word + 1) → word % 2 = 0) :
    NearestWord v (min infinityBits word) := by
  obtain hbeyond | hfinite := Nat.le_total infinityBits word
  · rw [Nat.min_eq_left hbeyond]
    exact nearestWord_of_infinity_le (le_trans (unitsAt_le_cast hbeyond) hlow)
  · rw [Nat.min_eq_right hfinite]
    refine nearestWord_of_midpoints hfinite (fun previous hprevious => ?_) fun _ => ⟨hhigh, heven⟩
    have hless : (unitsAt previous : ℚ) < unitsAt word := unitsAt_lt_cast (by omega)
    exact ⟨by linarith, fun heq => by linarith⟩

/-- From the midpoint on the upper is the nearest. -/
theorem nearestWord_upper (hlow : unitsAt word + unitsAt (word + 1) ≤ 2 * v)
    (hhigh : v < unitsAt (word + 1)) (hodd : 2 * v = unitsAt word + unitsAt (word + 1) → word % 2 = 1) :
    NearestWord v (min infinityBits (word + 1)) := by
  have hnext : (unitsAt word : ℚ) < unitsAt (word + 1) := unitsAt_lt_cast (by omega)
  by_cases hbeyond : infinityBits ≤ word
  · rw [Nat.min_eq_left (by omega)]
    have hinfinity : (unitsAt infinityBits : ℚ) ≤ unitsAt word := unitsAt_le_cast hbeyond
    exact nearestWord_of_infinity_le (by linarith)
  · rw [Nat.min_eq_right (by omega)]
    refine nearestWord_of_midpoints (by omega) (fun previous hprevious => ?_) fun _ => ?_
    · obtain rfl : previous = word := by omega
      refine ⟨hlow, fun heq => ?_⟩
      have hparity := hodd heq.symm
      omega
    · have hless : (unitsAt (word + 1) : ℚ) < unitsAt (word + 1 + 1) := unitsAt_lt_cast (by omega)
      exact ⟨by linarith, fun heq => by linarith⟩

end Words

section Nearest

variable {negative : Bool} {q : ℚ} {x y : Binary64}

theorem infinityBits_lt : infinityBits < 2 ^ 63 := by
  rw [infinityBits_eq]
  omega

theorem not_isNaN_ofFields {word : Nat} (hle : word ≤ infinityBits) :
    ¬ (ofFields negative 0 word).IsNaN := by
  have hlt := infinityBits_lt
  rw [isNaN_iff, word_ofFields negative (by omega)]
  omega

theorem abs_sub_size (hnumber : ¬ x.IsNaN) : |q - x.size| = |q / unit - unitsAt x.word| * unit := by
  have hdivided : q = q / unit * unit := (div_mul_cancel₀ q unit_pos.ne').symm
  rw [size_eq hnumber]
  nth_rewrite 1 [hdivided]
  rw [← sub_mul, abs_mul, abs_of_pos unit_pos]

theorem fraction_mod_two (x : Binary64) : x.fraction % 2 = x.word % 2 := by
  rw [fraction_eq]
  omega

/-- Which double is nearest is a question of its word. -/
theorem nearest_iff : x.Nearest negative q ↔ x.negative = negative ∧ NearestWord (q / unit) x.word := by
  constructor
  · intro hnearest
    have hword : x.word ≤ infinityBits := Nat.le_of_not_lt fun hlt => hnearest.number (isNaN_iff.mpr hlt)
    refine ⟨hnearest.negative_eq, hword, fun other hother => ?_, fun other hother heq => ?_⟩
    · have hcloser := hnearest.closest (ofFields negative 0 other) (not_isNaN_ofFields hother)
      rw [abs_sub_size hnearest.number, abs_sub_size (not_isNaN_ofFields hother),
        word_ofFields negative (Nat.lt_of_le_of_lt hother infinityBits_lt)] at hcloser
      exact le_of_mul_le_mul_right hcloser unit_pos
    · have htie := hnearest.tie_even (ofFields negative 0 other) (not_isNaN_ofFields hother)
      rw [abs_sub_size hnearest.number, abs_sub_size (not_isNaN_ofFields hother),
        size_eq hnearest.number, size_eq (not_isNaN_ofFields hother),
        word_ofFields negative (Nat.lt_of_le_of_lt hother infinityBits_lt), heq, fraction_mod_two] at htie
      obtain hsize | heven := htie rfl
      · have hunits := mul_right_cancel₀ unit_pos.ne' hsize
        exact .inl (strictMono_unitsAt.injective (Nat.cast_injective hunits))
      · exact .inr heven
  · rintro ⟨hnegative, hword⟩
    have hnumber : ¬ x.IsNaN := fun hnan => absurd (isNaN_iff.mp hnan) (Nat.not_lt.mpr hword.le)
    have hle {y : Binary64} (hy : ¬ y.IsNaN) : y.word ≤ infinityBits :=
      Nat.le_of_not_lt fun hlt => hy (isNaN_iff.mpr hlt)
    refine ⟨hnegative, hnumber, fun y hy => ?_, fun y hy heq => ?_⟩
    · rw [abs_sub_size hnumber, abs_sub_size hy]
      exact mul_le_mul_of_nonneg_right (hword.closest y.word (hle hy)) unit_pos.le
    · rw [abs_sub_size hnumber, abs_sub_size hy] at heq
      rw [size_eq hnumber, size_eq hy, fraction_mod_two]
      obtain hsame | heven := hword.tie_even y.word (hle hy) (mul_right_cancel₀ unit_pos.ne' heq)
      · exact .inl (by rw [hsame])
      · exact .inr heven

/-- No two doubles are nearest to one number. -/
theorem Nearest.unique (hx : x.Nearest negative q) (hy : y.Nearest negative q) : x = y := by
  obtain ⟨hnegative, hword⟩ := nearest_iff.mp hx
  obtain ⟨hnegative', hword'⟩ := nearest_iff.mp hy
  exact ext_word (hnegative.trans hnegative'.symm) (hword.unique hword')

end Nearest

section Fractions

variable {num den : Nat}

/-- The natural below a fraction up to the midpoint, and that above from there on. -/
theorem roundDiv_cases (num den : Nat) :
    (roundDiv num den = num / den ∧ 2 * num ≤ (2 * (num / den) + 1) * den ∧
      (2 * num = (2 * (num / den) + 1) * den → num / den % 2 = 0)) ∨
    (roundDiv num den = num / den + 1 ∧ (2 * (num / den) + 1) * den ≤ 2 * num ∧
      (2 * num = (2 * (num / den) + 1) * den → num / den % 2 = 1)) := by
  have hsum := Nat.div_add_mod num den
  have hmidpoint : (2 * (num / den) + 1) * den = 2 * (den * (num / den)) + den := by ring
  unfold roundDiv
  dsimp only
  split
  next hup =>
    refine .inr ⟨rfl, by omega, fun heq => ?_⟩
    omega
  next hdown =>
    refine .inl ⟨rfl, by omega, fun heq => ?_⟩
    omega

/-- A power of two with an exponent of either sign, as a fraction of naturals. -/
theorem zpow_eq_div (exponent : Int) :
    (2 : ℚ) ^ exponent = 2 ^ exponent.toNat / 2 ^ (-exponent).toNat := by
  have hsplit : exponent = exponent.toNat - (-exponent).toNat := by omega
  nth_rewrite 1 [hsplit]
  rw [zpow_sub₀ two_ne_zero, zpow_natCast, zpow_natCast]

theorem div_zpow_eq (exponent : Int) :
    (num : ℚ) / den / 2 ^ exponent =
      ((num * Nat.pow 2 (-exponent).toNat : Nat) : ℚ) / ((den * Nat.pow 2 exponent.toNat : Nat) : ℚ) := by
  rw [zpow_eq_div, Nat.pow_eq, Nat.pow_eq]
  push_cast
  field_simp

/-- A fraction lies between the powers of two that the lengths of its parts tell. -/
theorem fraction_bounds (hnum : 0 < num) (hden : 0 < den) :
    (2 : ℚ) ^ ((num.log2 : Int) - den.log2 - 1) < num / den ∧
      (num : ℚ) / den < 2 ^ ((num.log2 : Int) - den.log2 + 1) := by
  have hdenpos : (0 : ℚ) < den := Nat.cast_pos.mpr hden
  have hnumlow : (2 : ℚ) ^ num.log2 ≤ num := by exact_mod_cast Nat.log2_self_le (by omega)
  have hnumhigh : (num : ℚ) < 2 ^ (num.log2 + 1) := by exact_mod_cast Nat.lt_log2_self
  have hdenlow : (2 : ℚ) ^ den.log2 ≤ den := by exact_mod_cast Nat.log2_self_le (by omega)
  have hdenhigh : (den : ℚ) < 2 ^ (den.log2 + 1) := by exact_mod_cast Nat.lt_log2_self
  have hpos : (0 : ℚ) < 2 ^ ((num.log2 : Int) - den.log2 - 1) := zpow_pos two_pos _
  have hpos' : (0 : ℚ) < 2 ^ ((num.log2 : Int) - den.log2 + 1) := zpow_pos two_pos _
  constructor
  · rw [lt_div_iff₀ hdenpos]
    calc (2 : ℚ) ^ ((num.log2 : Int) - den.log2 - 1) * den
        < 2 ^ ((num.log2 : Int) - den.log2 - 1) * 2 ^ (den.log2 + 1) := mul_lt_mul_of_pos_left hdenhigh hpos
      _ = 2 ^ num.log2 := by
        rw [← zpow_natCast, ← zpow_natCast, ← zpow_add₀ two_ne_zero]
        congr 1
        push_cast
        ring
      _ ≤ num := hnumlow
  · rw [div_lt_iff₀ hdenpos]
    calc (num : ℚ) < 2 ^ (num.log2 + 1) := hnumhigh
      _ = 2 ^ ((num.log2 : Int) - den.log2 + 1) * 2 ^ den.log2 := by
        rw [← zpow_natCast, ← zpow_natCast, ← zpow_add₀ two_ne_zero]
        congr 1
        push_cast
        ring
      _ ≤ 2 ^ ((num.log2 : Int) - den.log2 + 1) * den := mul_le_mul_of_nonneg_left hdenlow hpos'.le

theorem zpow_add_natCast (exponent : Int) (places : Nat) :
    (2 : ℚ) ^ (exponent + places) = 2 ^ places * 2 ^ exponent := by
  rw [zpow_add₀ two_ne_zero, zpow_natCast, mul_comm]

/-- The test for a fraction that leaves 53 bits before the point at most. -/
theorem fits_iff (hden : 0 < den) (exponent : Int) :
    num * Nat.pow 2 (-exponent).toNat < den * Nat.pow 2 exponent.toNat * Nat.pow 2 53 ↔
      (num : ℚ) / den < 2 ^ (exponent + (53 : Nat)) := by
  have hscaled : (0 : ℚ) < (den * Nat.pow 2 exponent.toNat : Nat) :=
    Nat.cast_pos.mpr (Nat.mul_pos hden (Nat.pow_pos (by omega)))
  rw [zpow_add_natCast, ← div_lt_iff₀ (zpow_pos two_pos _), div_zpow_eq, div_lt_iff₀ hscaled,
    Nat.mul_comm _ (Nat.pow 2 53), Nat.pow_eq (m := 2) (n := 53)]
  exact_mod_cast Iff.rfl

/-- A positive fraction is measured at the exponent that leaves 53 bits before the point, or with fewer
    of them at that of the subnormal numbers. -/
theorem exponentFor_bounds (hnum : 0 < num) (hden : 0 < den) :
    -1074 ≤ exponentFor num den ∧ (num : ℚ) / den / 2 ^ exponentFor num den < 2 ^ 53 ∧
      (exponentFor num den = -1074 ∨ 2 ^ 52 ≤ (num : ℚ) / den / 2 ^ exponentFor num den) := by
  obtain ⟨hlow, hhigh⟩ := fraction_bounds hnum hden
  have hmeasured : ∃ exact : Int, exponentFor num den = max (-1074) exact ∧
      (2 : ℚ) ^ (exact + (52 : Nat)) ≤ num / den ∧ (num : ℚ) / den < 2 ^ (exact + (53 : Nat)) := by
    unfold exponentFor
    dsimp only
    generalize hguess : (num.log2 : Int) - den.log2 - 53 = guess
    have hfirst : (num.log2 : Int) - den.log2 - 1 = guess + (52 : Nat) := by omega
    have hlast : (num.log2 : Int) - den.log2 + 1 = guess + 1 + (53 : Nat) := by omega
    rw [hfirst] at hlow
    rw [hlast] at hhigh
    by_cases hfits : num * Nat.pow 2 (-guess).toNat < den * Nat.pow 2 guess.toNat * Nat.pow 2 53
    · rw [if_pos hfits]
      exact ⟨guess, rfl, hlow.le, (fits_iff hden guess).mp hfits⟩
    · have hlong : (2 : ℚ) ^ (guess + (53 : Nat)) ≤ num / den :=
        not_lt.mp (mt (fits_iff hden guess).mpr hfits)
      have hnext : guess + 1 + (52 : Nat) = guess + (53 : Nat) := by omega
      rw [if_neg hfits]
      exact ⟨guess + 1, rfl, by rwa [hnext], hhigh⟩
  obtain ⟨exact, heq, hexact, hexact'⟩ := hmeasured
  rw [heq, div_lt_iff₀ (zpow_pos two_pos _), le_div_iff₀ (zpow_pos two_pos _), ← zpow_add_natCast,
    ← zpow_add_natCast]
  refine ⟨le_max_left _ _, ?_, ?_⟩
  · calc (num : ℚ) / den < 2 ^ (exact + (53 : Nat)) := hexact'
      _ ≤ 2 ^ (max (-1074) exact + (53 : Nat)) :=
        zpow_le_zpow_right₀ one_le_two (Int.add_le_add_right (le_max_right _ _) _)
  · obtain hleast | hmore := le_total exact (-1074)
    · exact .inl (max_eq_left hleast)
    · exact .inr (by rwa [max_eq_right hmore])

/-- The quotient of naturals is the fraction without what lies behind the point. -/
theorem div_bounds (num : Nat) (hden : 0 < den) :
    ((num / den : Nat) : ℚ) ≤ num / den ∧ (num : ℚ) / den < (num / den : Nat) + 1 := by
  have hdenpos : (0 : ℚ) < den := Nat.cast_pos.mpr hden
  refine ⟨Nat.cast_div_le, ?_⟩
  rw [div_lt_iff₀ hdenpos, mul_comm]
  exact_mod_cast Nat.lt_mul_div_succ num hden

/-- A fraction with 53 bits before the point has a quotient with as many. -/
theorem quotient_bounds {place : Nat} (hden : 0 < den) (hshort : (num : ℚ) / den < 2 ^ 53)
    (hfull : place = 0 ∨ 2 ^ 52 ≤ (num : ℚ) / den) :
    num / den < 2 ^ 53 ∧ (place = 0 ∨ 2 ^ 52 ≤ num / den) := by
  have hdenpos : (0 : ℚ) < den := Nat.cast_pos.mpr hden
  constructor
  · rw [div_lt_iff₀ hdenpos] at hshort
    exact (Nat.div_lt_iff_lt_mul hden).mpr (by exact_mod_cast hshort)
  · refine hfull.imp_right fun hle => ?_
    rw [le_div_iff₀ hdenpos] at hle
    exact (Nat.le_div_iff_mul_le hden).mpr (by exact_mod_cast hle)

/-- Rounding the significand finds the nearest word, also where it rounds up into the next exponent or
    to infinity. -/
theorem nearestWord_roundDiv {place : Nat} (hden : 0 < den) (hshort : (num : ℚ) / den < 2 ^ 53)
    (hfull : place = 0 ∨ 2 ^ 52 ≤ (num : ℚ) / den) :
    NearestWord ((num : ℚ) / den * 2 ^ place) (min infinityBits (place * 2 ^ 52 + roundDiv num den)) := by
  have hdenpos : (0 : ℚ) < den := Nat.cast_pos.mpr hden
  have hpower : (0 : ℚ) < 2 ^ place := pow_pos two_pos _
  obtain ⟨hlow, hhigh⟩ := div_bounds num hden
  obtain ⟨hlt, hnormal⟩ := quotient_bounds hden hshort hfull
  have hunits : (unitsAt (place * 2 ^ 52 + num / den) : ℚ) = (num / den : Nat) * 2 ^ place := by
    rw [unitsAt_eq (Nat.le_of_lt hlt) hnormal]
    push_cast
    rfl
  have hnext : (unitsAt (place * 2 ^ 52 + num / den + 1) : ℚ) = ((num / den : Nat) + 1) * 2 ^ place := by
    rw [unitsAt_succ hlt hnormal, Nat.cast_add, hunits]
    push_cast
    ring
  have hmidpoint : (unitsAt (place * 2 ^ 52 + num / den) + unitsAt (place * 2 ^ 52 + num / den + 1) : ℚ) =
      ((2 * (num / den) + 1 : Nat) : ℚ) * 2 ^ place := by
    exact_mod_cast unitsAt_add_unitsAt_succ hlt hnormal
  have htwice : 2 * ((num : ℚ) / den * 2 ^ place) = ((2 * num : Nat) : ℚ) / den * 2 ^ place := by
    push_cast
    ring
  have hodd : (place * 2 ^ 52 + num / den) % 2 = num / den % 2 := by omega
  have htie (heq : 2 * ((num : ℚ) / den * 2 ^ place) =
      unitsAt (place * 2 ^ 52 + num / den) + unitsAt (place * 2 ^ 52 + num / den + 1)) :
      2 * num = (2 * (num / den) + 1) * den := by
    rw [htwice, hmidpoint] at heq
    exact_mod_cast (div_eq_iff hdenpos.ne').mp (mul_right_cancel₀ hpower.ne' heq)
  obtain ⟨hround, hside, hparity⟩ | ⟨hround, hside, hparity⟩ := roundDiv_cases num den
  · rw [hround]
    refine nearestWord_lower ?_ ?_ fun heq => hodd.trans (hparity (htie heq))
    · rw [hunits]
      exact mul_le_mul_of_nonneg_right hlow hpower.le
    · rw [htwice, hmidpoint]
      refine mul_le_mul_of_nonneg_right ?_ hpower.le
      rw [div_le_iff₀ hdenpos]
      exact_mod_cast hside
  · rw [hround, ← Nat.add_assoc]
    refine nearestWord_upper ?_ ?_ fun heq => hodd.trans (hparity (htie heq))
    · rw [htwice, hmidpoint]
      refine mul_le_mul_of_nonneg_right ?_ hpower.le
      rw [le_div_iff₀ hdenpos]
      exact_mod_cast hside
    · rw [hnext]
      exact mul_lt_mul_of_pos_right hhigh hpower

theorem nearestWord_nearestBits (hnum : 0 < num) (hden : 0 < den) :
    NearestWord ((num : ℚ) / den / unit) (nearestBits num den) := by
  obtain ⟨hleast, hshort, hfull⟩ := exponentFor_bounds hnum hden
  unfold nearestBits
  dsimp only
  generalize exponentFor num den = exponent at hleast hshort hfull ⊢
  obtain ⟨place, rfl⟩ : ∃ place : Nat, exponent = place - 1074 := ⟨(exponent + 1074).toNat, by omega⟩
  have hplace : ((place : Int) - 1074 + 1074).toNat = place := by omega
  have hpower : (2 : ℚ) ^ place ≠ 0 := pow_ne_zero _ two_ne_zero
  have hunit := unit_pos.ne'
  have hunits : (num : ℚ) / den / unit = num / den / 2 ^ ((place : Int) - 1074) * 2 ^ place := by
    rw [zpow_eq_mul_unit]
    field_simp
  rw [hplace, hunits]
  rw [div_zpow_eq] at hshort hfull ⊢
  exact nearestWord_roundDiv (Nat.mul_pos hden (Nat.pow_pos (by omega))) hshort
    (hfull.imp_left fun hzero => by omega)

end Fractions

end Binary64

namespace Decimal

/-- The number that a decimal stands for. -/
def value (d : Decimal) : ℚ :=
  d.digits * 10 ^ d.exponent

theorem value_eq (d : Decimal) : d.value = d.numerator / d.denominator := by
  have hsplit : d.exponent = d.exponent.toNat - (-d.exponent).toNat := by omega
  rw [value, numerator, denominator, Nat.pow_eq, Nat.pow_eq]
  nth_rewrite 1 [hsplit]
  rw [zpow_sub₀ (by norm_num), zpow_natCast, zpow_natCast]
  push_cast
  rw [mul_div_assoc]

end Decimal

namespace Binary64

/-- Reading a decimal gives the double nearest to it. -/
theorem nearest_ofDecimal (negative : Bool) (d : Decimal) :
    (ofDecimal negative d).Nearest negative d.value := by
  unfold ofDecimal
  by_cases hzero : d.digits = 0
  · have hvalue : d.value / unit = 0 := by
      rw [Decimal.value, hzero, Nat.cast_zero, zero_mul, zero_div]
    rw [if_pos hzero, nearest_iff, hvalue, word_ofFields negative (by omega)]
    exact ⟨negative_ofFields negative (by omega), nearestWord_zero⟩
  · have hnum : 0 < d.numerator := Nat.mul_pos (Nat.pos_of_ne_zero hzero) (Nat.pow_pos (by omega))
    have hword : NearestWord (d.value / unit) (nearestBits d.numerator d.denominator) := by
      rw [Decimal.value_eq]
      exact nearestWord_nearestBits hnum d.denominator_pos
    have hlt : nearestBits d.numerator d.denominator < 2 ^ 63 :=
      Nat.lt_of_le_of_lt hword.le infinityBits_lt
    rw [if_neg hzero, nearest_iff, word_ofFields negative hlt]
    exact ⟨negative_ofFields negative hlt, hword⟩

end Binary64

end TreeDump
