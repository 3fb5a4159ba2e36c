import TreeDump.Number.Numeral

namespace TreeDump

namespace Numeral

/-- More digits never make the number less. -/
theorem le_ofDigitChars (n : Nat) (digits : List Char) : n ≤ Nat.ofDigitChars 10 digits n := by
  induction digits generalizing n with
  | nil => simp
  | cons c digits ih =>
    have hstep := ih (10 * n + (c.toNat - '0'.toNat))
    rw [Nat.ofDigitChars_cons]
    omega

/-- Since more digits never make the number less, a number within the bound was within it all the
    time. -/
theorem readDigits_of_le {bound : Nat} {digits : List Char} (beyond : NumeralError) (n : Nat)
    (hdigits : ∀ c ∈ digits, c.isDigit = true) (hle : Nat.ofDigitChars 10 digits n ≤ bound) :
    readDigits bound beyond n digits = .ok (Nat.ofDigitChars 10 digits n) := by
  induction digits generalizing n with
  | nil => simp [readDigits]
  | cons c digits ih =>
    have hc : c.isDigit = true := hdigits c List.mem_cons_self
    have hrest : ∀ d ∈ digits, d.isDigit = true := fun d hd =>
      hdigits d (List.mem_cons_of_mem c hd)
    rw [Nat.ofDigitChars_cons] at hle ⊢
    have hbound : ¬ bound < 10 * n + (c.toNat - '0'.toNat) := by
      have hgrows := le_ofDigitChars (10 * n + (c.toNat - '0'.toNat)) digits
      omega
    rw [readDigits, if_neg hbound, ih _ hrest hle]
    simp [hc]

section

variable {n bound : Nat}

/-- The text of a natural is not empty and begins with no sign. -/
theorem exists_toDigits_eq_cons (n : Nat) :
    ∃ c digits, Nat.toDigits 10 n = c :: digits ∧ c ≠ '+' ∧ c ≠ '-' := by
  obtain ⟨c, digits, hdigits⟩ := List.exists_cons_of_ne_nil (Nat.toDigits_ne_nil (n := n) (b := 10))
  have hmem : c ∈ Nat.toDigits 10 n := by
    rw [hdigits]
    exact List.mem_cons_self
  have hc : c.isDigit = true := Nat.isDigit_of_mem_toDigits (by omega) (by omega) hmem
  refine ⟨c, digits, hdigits, ?_, ?_⟩
  · rintro rfl
    simp at hc
  · rintro rfl
    simp at hc

theorem readDigits_toDigits (beyond : NumeralError) (hle : n ≤ bound) :
    readDigits bound beyond 0 (Nat.toDigits 10 n) = .ok n := by
  have hdigits : ∀ c ∈ Nat.toDigits 10 n, c.isDigit = true := fun _ hc =>
    Nat.isDigit_of_mem_toDigits (by omega) (by omega) hc
  have hvalue : Nat.ofDigitChars 10 (Nat.toDigits 10 n) 0 = n := Nat.ofDigitChars_ten_toDigits
  rw [readDigits_of_le beyond 0 hdigits (by rwa [hvalue]), hvalue]

theorem readInt64_toDigits (hle : n ≤ Nat.pow 2 63 - 1) :
    readInt64 (Nat.toDigits 10 n) = .ok (n : Int) := by
  obtain ⟨c, digits, hdigits, hplus, hminus⟩ := exists_toDigits_eq_cons n
  have hread := readDigits_toDigits .tooLarge hle
  rw [hdigits] at hread ⊢
  simp [readInt64, hplus, hminus, hread, Except.map]

theorem readUInt64_toDigits (hle : n ≤ Nat.pow 2 64 - 1) :
    readUInt64 (Nat.toDigits 10 n) = .ok n := by
  obtain ⟨c, digits, hdigits, hplus, _⟩ := exists_toDigits_eq_cons n
  have hread := readDigits_toDigits .tooLarge hle
  rw [hdigits] at hread ⊢
  simp [readUInt64, hplus, hread]

end

end Numeral

end TreeDump
