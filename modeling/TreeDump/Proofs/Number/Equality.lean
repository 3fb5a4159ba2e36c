import TreeDump.Scalar

namespace TreeDump

namespace Binary64

/-- The word is not a number. -/
def IsNaN (x : Binary64) : Prop :=
  x.magnitude = .nan

instance (x : Binary64) : Decidable x.IsNaN :=
  inferInstanceAs (Decidable (x.magnitude = .nan))

/-- The two zeros. -/
def signedZero (negative : Bool) : Binary64 :=
  ofFields negative 0 0

theorem magnitude_signedZero (negative : Bool) :
    (signedZero negative).magnitude = .finite 0 (-1074) := by
  cases negative <;> rfl

theorem not_isNaN_signedZero (negative : Bool) : ¬ (signedZero negative).IsNaN := by
  rw [IsNaN, magnitude_signedZero]
  exact nofun

/-- A word of which all bits but the sign are clear is one of the two zeros. -/
theorem exists_eq_signedZero {x : Binary64} {exponent : Int} (hzero : x.magnitude = .finite 0 exponent) :
    ∃ negative, x = signedZero negative := by
  have hfields : x.fraction = 0 ∧ x.biasedExponent = 0 := by
    unfold magnitude at hzero
    split at hzero
    · split at hzero <;> cases hzero
    · split at hzero
      next hsubnormal => exact ⟨(Magnitude.finite.inj hzero).1, hsubnormal⟩
      next =>
        have hsum : 4503599627370496 + x.fraction = 0 := (Magnitude.finite.inj hzero).1
        omega
  obtain ⟨hfraction, hexponent⟩ := hfields
  change x.bits.toNat % 4503599627370496 = 0 at hfraction
  change x.bits.toNat / 4503599627370496 % 2048 = 0 at hexponent
  have hword := x.bits.toNat_lt
  have hbits : x.bits.toNat = 0 ∨ x.bits.toNat = 9223372036854775808 := by omega
  obtain hplus | hminus := hbits
  · exact ⟨false, congrArg Binary64.mk (UInt64.toNat_inj.mp hplus)⟩
  · exact ⟨true, congrArg Binary64.mk (UInt64.toNat_inj.mp hminus)⟩

theorem beq_iff {x y : Binary64} :
    (x == y) = true ↔
      ¬ x.IsNaN ∧ (x = y ∨ ∃ negative negative', x = signedZero negative ∧ y = signedZero negative') := by
  change equal x y = true ↔ _
  unfold equal
  split
  next hnan => exact ⟨nofun, fun ⟨hnumber, _⟩ => absurd hnan hnumber⟩
  next hnan _ =>
    refine ⟨nofun, ?_⟩
    rintro ⟨hnumber, rfl | ⟨_, negative, _, rfl⟩⟩
    · exact absurd hnan hnumber
    · exact absurd hnan (not_isNaN_signedZero negative)
  next hzero hzero' =>
    obtain ⟨negative, rfl⟩ := exists_eq_signedZero hzero
    obtain ⟨negative', rfl⟩ := exists_eq_signedZero hzero'
    exact ⟨fun _ => ⟨not_isNaN_signedZero negative, .inr ⟨negative, negative', rfl, rfl⟩⟩, fun _ => rfl⟩
  next hnan _ hnonzero =>
    rw [beq_iff_eq]
    constructor
    · intro hbits
      exact ⟨hnan, .inl (congrArg Binary64.mk hbits)⟩
    · rintro ⟨_, rfl | ⟨negative, negative', rfl, rfl⟩⟩
      · rfl
      · exact absurd (magnitude_signedZero negative') (hnonzero _ _ (magnitude_signedZero negative))

end Binary64

namespace Scalar

/-- The scalar is a number that is none. -/
def IsNaN (value : Scalar) : Prop :=
  ∃ x : Binary64, value = .number x ∧ x.IsNaN

/-- The scalars are the same, or they are zeros. -/
def Twins (a b : Scalar) : Prop :=
  a = b ∨ ∃ negative negative', a = .number (.signedZero negative) ∧ b = .number (.signedZero negative')

theorem Twins.symm {a b : Scalar} (htwins : a.Twins b) : b.Twins a := by
  obtain rfl | ⟨negative, negative', ha, hb⟩ := htwins
  · exact .inl rfl
  · exact .inr ⟨negative', negative, hb, ha⟩

theorem Twins.trans {a b c : Scalar} (hab : a.Twins b) (hbc : b.Twins c) : a.Twins c := by
  obtain rfl | ⟨negative, _, ha, hb⟩ := hab
  · exact hbc
  · obtain rfl | ⟨_, negative', _, hc⟩ := hbc
    · exact .inr ⟨negative, _, ha, hb⟩
    · exact .inr ⟨negative, negative', ha, hc⟩

theorem Twins.not_isNaN {a b : Scalar} (htwins : a.Twins b) (ha : ¬ a.IsNaN) : ¬ b.IsNaN := by
  obtain rfl | ⟨_, negative, _, rfl⟩ := htwins
  · exact ha
  · rintro ⟨x, hx, hnan⟩
    cases hx
    exact Binary64.not_isNaN_signedZero negative hnan

theorem beq_iff {a b : Scalar} : (a == b) = true ↔ ¬ a.IsNaN ∧ a.Twins b := by
  change equal a b = true ↔ _
  cases a with
  | number x => cases b <;> simp [equal, IsNaN, Twins, Binary64.beq_iff]
  | string s => cases b <;> simp [equal, IsNaN, Twins]
  | boolean value => cases b <;> simp [equal, IsNaN, Twins]
  | undefined => cases b <;> simp [equal, IsNaN, Twins]

instance : PartialEquivBEq Scalar where
  symm hbeq := by
    obtain ⟨hnumber, htwins⟩ := beq_iff.mp hbeq
    exact beq_iff.mpr ⟨htwins.not_isNaN hnumber, htwins.symm⟩
  trans hab hbc := by
    obtain ⟨hnumber, hab⟩ := beq_iff.mp hab
    exact beq_iff.mpr ⟨hnumber, hab.trans (beq_iff.mp hbc).2⟩

theorem beq_self_iff {a : Scalar} : (a == a) = true ↔ ¬ a.IsNaN := by
  rw [beq_iff]
  exact and_iff_left (.inl rfl)

end Scalar

end TreeDump
