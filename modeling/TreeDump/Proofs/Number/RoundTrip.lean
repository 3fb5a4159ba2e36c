import TreeDump.Proofs.Dump.Indentation
import TreeDump.Proofs.Number.Positional

namespace TreeDump

namespace Binary64

variable {x y : Binary64}

theorem text_of_isNaN (hnan : x.IsNaN) : x.text = "NaN" := by
  rw [text, write, show x.magnitude = .nan from hnan]
  rfl

theorem text_of_infinite (hinfinite : x.magnitude = .infinite) :
    x.text = if x.negative then "-inf" else "inf" := by
  rw [text, write, hinfinite]
  dsimp only
  split
  · rfl
  · rfl

/-- A finite number is written as a plain numeral, to which no other double is nearest. -/
theorem exists_plainNumeral_text {significand : Nat} {exponent : Int}
    (hfinite : x.magnitude = .finite significand exponent) :
    ∃ numeral : PlainNumeral, x.text.toList = numeral.chars ∧ numeral.negative = x.negative ∧
      ∀ y : Binary64, y.Nearest numeral.negative numeral.size ↔ y = x := by
  obtain ⟨numeral, hnegative, hdigits, hsize⟩ :=
    Decimal.exists_plainNumeral (Decimal.trimmed_shortest significand exponent) x.negative
  refine ⟨numeral, ?_, hnegative, fun y => ?_⟩
  · rw [text, String.toList_ofList, write, hfinite, PlainNumeral.chars, hnegative, hdigits]
    rfl
  · have hnearest : x.Nearest numeral.negative numeral.size := by
      rw [hnegative, hsize]
      exact nearest_shortest hfinite
    constructor
    · intro hy
      exact hy.unique hnearest
    · rintro rfl
      exact hnearest

/-- The text of a finite number is read as that number. -/
theorem read?_text_of_finite {significand : Nat} {exponent : Int}
    (hfinite : x.magnitude = .finite significand exponent) : read? x.text.toList = some x := by
  obtain ⟨numeral, hchars, _, hnearest⟩ := exists_plainNumeral_text hfinite
  obtain ⟨y, hread, hy⟩ := numeral.exists_read?_eq_some
  rw [hchars, hread, (hnearest y).mp hy]

/-- The texts of infinities and of what is no number are not read as numbers. -/
theorem read?_text_eq_none (hnot : ∀ significand exponent, x.magnitude ≠ .finite significand exponent) :
    read? x.text.toList = none := by
  cases hmagnitude : x.magnitude with
  | nan =>
    rw [text_of_isNaN hmagnitude]
    rfl
  | infinite =>
    rw [text_of_infinite hmagnitude]
    cases x.negative
    · rfl
    · rfl
  | finite significand exponent => exact absurd hmagnitude (hnot significand exponent)

theorem eq_of_text_eq_of_finite {significand : Nat} {exponent : Int}
    (hfinite : x.magnitude = .finite significand exponent) (heq : x.text = y.text) : x = y := by
  have hread : read? y.text.toList = some x := by
    rw [← heq]
    exact read?_text_of_finite hfinite
  by_cases hy : ∃ significand exponent, y.magnitude = .finite significand exponent
  · obtain ⟨_, _, hy⟩ := hy
    rw [read?_text_of_finite hy] at hread
    exact (Option.some_inj.mp hread).symm
  · rw [read?_text_eq_none fun significand exponent hy' => hy ⟨significand, exponent, hy'⟩] at hread
    cases hread

/-- The two infinities differ in the sign alone. -/
theorem eq_of_text_eq_of_infinite (hx : x.magnitude = .infinite) (hy : y.magnitude = .infinite)
    (heq : x.text = y.text) : x = y := by
  have hword : x.word = y.word := (infinite_iff.mp hx).trans (infinite_iff.mp hy).symm
  refine ext_word ?_ hword
  rw [text_of_infinite hx, text_of_infinite hy] at heq
  cases hsign : x.negative with
  | true => cases hsign' : y.negative with
    | true => rfl
    | false => simp [hsign, hsign'] at heq
  | false => cases hsign' : y.negative with
    | true => simp [hsign, hsign'] at heq
    | false => rfl

theorem text_ne_of_isNaN_of_infinite (hnan : x.IsNaN) (hinfinite : y.magnitude = .infinite) :
    x.text ≠ y.text := by
  rw [text_of_isNaN hnan, text_of_infinite hinfinite]
  cases y.negative
  · decide
  · decide

/-- Words have the same text only if they are the same, or no numbers. -/
theorem text_eq_iff : x.text = y.text ↔ x = y ∨ x.IsNaN ∧ y.IsNaN := by
  constructor
  · intro heq
    cases hx : x.magnitude with
    | finite significand exponent => exact .inl (eq_of_text_eq_of_finite hx heq)
    | nan => cases hy : y.magnitude with
      | finite significand exponent => exact .inl (eq_of_text_eq_of_finite hy heq.symm).symm
      | nan => exact .inr ⟨hx, hy⟩
      | infinite => exact absurd heq (text_ne_of_isNaN_of_infinite hx hy)
    | infinite => cases hy : y.magnitude with
      | finite significand exponent => exact .inl (eq_of_text_eq_of_finite hy heq.symm).symm
      | nan => exact absurd heq.symm (text_ne_of_isNaN_of_infinite hy hx)
      | infinite => exact .inl (eq_of_text_eq_of_infinite hx hy heq)
  · rintro (rfl | ⟨hx, hy⟩)
    · rfl
    · rw [text_of_isNaN hx, text_of_isNaN hy]

end Binary64

namespace Scalar

/-- In dumps there is one word for all that is no number and one for each infinity. Any other double has the
    text of a numeral in plain decimal, with a minus sign just if its sign bit is set. The double is the one
    and only that is nearest to the number which the numeral denotes, so that reading the text gives its very
    bits again; and numbers with the same text have the same bits. The last of the three lines of a
    literal shows the text, whatever the depth and the indent. -/
theorem text_number_reads_back (x : Binary64) :
    let text := (Scalar.number x).text
    (match x.magnitude with
      | .nan => text = "NaN"
      | .infinite => text = if x.negative then "-inf" else "inf"
      | .finite _ _ =>
        Binary64.read? text.toList = some x ∧
          ∃ numeral : PlainNumeral, text.toList = numeral.chars ∧ numeral.negative = x.negative ∧
            ∀ y : Binary64, y.Nearest numeral.negative numeral.size ↔ y = x) ∧
      (∀ y : Binary64, text = (Scalar.number y).text ↔ x = y ∨ x.IsNaN ∧ y.IsNaN) ∧
      ∀ (info : NodeInfo) (indent : Indent) (depth : Depth),
        ∃ header kind, dumpedLines indent depth (Literal.mk info (.number x)) =
          [header, kind, indent.times (min (depth.level + 1) Depth.limit) ++ ("value: " ++ text)] := by
  intro text
  refine ⟨?_, fun y => Binary64.text_eq_iff, fun info indent depth => ?_⟩
  · cases hmagnitude : x.magnitude with
    | nan => exact Binary64.text_of_isNaN hmagnitude
    | infinite => exact Binary64.text_of_infinite hmagnitude
    | finite significand exponent =>
      exact ⟨Binary64.read?_text_of_finite hmagnitude, Binary64.exists_plainNumeral_text hmagnitude⟩
  · exact ⟨_, _, Literal.dumpedLines_eq indent depth ⟨info, .number x⟩⟩

end Scalar

end TreeDump
