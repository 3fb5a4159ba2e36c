import TreeDump.Number.Text

namespace TreeDump

/-- A natural is the number that its digits are read as. -/
theorem toDigits_ten_inj {m n : Nat} (heq : Nat.toDigits 10 m = Nat.toDigits 10 n) : m = n := by
  rw [← Nat.ofDigitChars_ten_toDigits (n := m), heq, Nat.ofDigitChars_ten_toDigits]

namespace Decimal

theorem isDigit_of_mem_digitChars {d : Decimal} {c : Char} (hc : c ∈ d.digitChars) :
    c.isDigit = true :=
  Nat.isDigit_of_mem_toDigits (by omega) (by omega) hc

theorem mem_positional {wholeEnd : List Char} {d : Decimal} {c : Char} (hc : c ∈ d.positional wholeEnd) :
    c.isDigit = true ∨ c = '.' ∨ c ∈ wholeEnd := by
  have hdigit (hmem : c ∈ d.digitChars) : c.isDigit = true ∨ c = '.' ∨ c ∈ wholeEnd :=
    .inl (isDigit_of_mem_digitChars hmem)
  have hzero {count : Nat} (hmem : c ∈ List.replicate count '0') :
      c.isDigit = true ∨ c = '.' ∨ c ∈ wholeEnd := by
    rw [(List.mem_replicate.mp hmem).2]
    exact .inl rfl
  unfold positional at hc
  dsimp only at hc
  split at hc
  · obtain hfront | hend := List.mem_append.mp hc
    · exact (List.mem_append.mp hfront).elim hdigit hzero
    · exact .inr (.inr hend)
  · split at hc
    · obtain hfront | hback := List.mem_append.mp hc
      · exact hdigit (List.mem_of_mem_take hfront)
      · obtain rfl | hback := List.mem_cons.mp hback
        · exact .inr (.inl rfl)
        · exact hdigit (List.mem_of_mem_drop hback)
    · obtain rfl | hc := List.mem_cons.mp hc
      · exact .inl rfl
      · obtain rfl | hc := List.mem_cons.mp hc
        · exact .inr (.inl rfl)
        · exact (List.mem_append.mp hc).elim hzero hdigit

theorem mem_integerChars {n : Int} {c : Char} (hc : c ∈ integerChars n) : c.isDigit = true ∨ c = '-' := by
  have hdigit (hmem : c ∈ Nat.toDigits 10 n.natAbs) : c.isDigit = true :=
    Nat.isDigit_of_mem_toDigits (by omega) (by omega) hmem
  unfold integerChars at hc
  split at hc
  · exact (List.mem_cons.mp hc).elim .inr fun hc => .inl (hdigit hc)
  · exact .inl (hdigit hc)

theorem mem_scientific {d : Decimal} {c : Char} (hc : c ∈ d.scientific) :
    c.isDigit = true ∨ c ∈ ['.', 'e', '-'] := by
  unfold scientific at hc
  dsimp only at hc
  obtain hfront | hback := List.mem_append.mp hc
  · obtain hfirst | hfractional := List.mem_append.mp hfront
    · exact .inl (isDigit_of_mem_digitChars (List.mem_of_mem_take hfirst))
    · split at hfractional
      · cases hfractional
      · obtain rfl | hfractional := List.mem_cons.mp hfractional
        · exact .inr (by decide)
        · exact .inl (isDigit_of_mem_digitChars (List.mem_of_mem_drop hfractional))
  · obtain rfl | hexponent := List.mem_cons.mp hback
    · exact .inr (by decide)
    · obtain hdigit | rfl := mem_integerChars hexponent
      · exact .inl hdigit
      · exact .inr (by decide)

theorem mem_write_plain {d : Decimal} {c : Char} (hc : c ∈ d.write .plain) :
    c.isDigit = true ∨ c = '.' := by
  obtain hdigit | hpoint | hend := mem_positional hc
  · exact .inl hdigit
  · exact .inr hpoint
  · cases hend

theorem mem_write_inspected {d : Decimal} {c : Char} (hc : c ∈ d.write .inspected) :
    c.isDigit = true ∨ c ∈ ['.', 'e', '-'] := by
  unfold write at hc
  split at hc
  · obtain hdigit | rfl | hend := mem_positional hc
    · exact .inl hdigit
    · exact .inr (by decide)
    · obtain rfl | rfl : c = '.' ∨ c = '0' := by simpa [Style.inspected] using hend
      · exact .inr (by decide)
      · exact .inl rfl
  · exact mem_scientific hc

end Decimal

namespace Binary64

/-- The characters of numbers other than digits. -/
def nonDigits : List Char :=
  ['.', '-', 'N', 'a', 'i', 'n', 'f']

/-- Beside the decimal that it is written with, a number has a sign at most, unless it is none. -/
theorem mem_write {style : Decimal.Style} {x : Binary64} {c : Char} (hc : c ∈ x.write style) :
    (∃ d : Decimal, c ∈ d.write style) ∨ c ∈ nonDigits := by
  have hnan : ∀ c ∈ "NaN".toList, c ∈ nonDigits := by simp [nonDigits]
  have hinfinite : ∀ c ∈ "inf".toList, c ∈ nonDigits := by simp [nonDigits]
  unfold write at hc
  split at hc
  next => exact .inr (hnan c hc)
  next =>
    split at hc
    · obtain rfl | hc := List.mem_cons.mp hc
      · exact .inr (by decide)
      · exact .inr (hinfinite c hc)
    · exact .inr (hinfinite c hc)
  next =>
    dsimp only at hc
    split at hc
    · obtain rfl | hc := List.mem_cons.mp hc
      · exact .inr (by decide)
      · exact .inl ⟨_, hc⟩
    · exact .inl ⟨_, hc⟩

theorem mem_text {x : Binary64} {c : Char} (hc : c ∈ x.text.toList) :
    c.isDigit = true ∨ c ∈ nonDigits := by
  rw [text, String.toList_ofList] at hc
  obtain ⟨d, hd⟩ | hc := mem_write hc
  · obtain hdigit | rfl := Decimal.mem_write_plain hd
    · exact .inl hdigit
    · exact .inr (by decide)
  · exact .inr hc

theorem mem_inspect {x : Binary64} {c : Char} (hc : c ∈ x.inspect.toList) :
    c.isDigit = true ∨ c ∈ 'e' :: nonDigits := by
  rw [inspect, String.toList_ofList] at hc
  obtain ⟨d, hd⟩ | hc := mem_write hc
  · obtain hdigit | hmark := Decimal.mem_write_inspected hd
    · exact .inl hdigit
    · have hmarks : ['.', 'e', '-'] ⊆ 'e' :: nonDigits := by decide
      exact .inr (hmarks hmark)
  · exact .inr (List.mem_cons_of_mem _ hc)

end Binary64

end TreeDump
