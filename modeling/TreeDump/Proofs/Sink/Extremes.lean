import TreeDump.Proofs.Sink.Bounded

namespace TreeDump

/-- What every write preserves is preserved by a writer that fills up. -/
theorem ByteWriter.FillsUp.preserves {ω : Type} [ByteWriter ω] {capacity : Option Nat}
    {Keeps : ω → List UInt8 → Prop} {P : ω → Prop} (hwriter : FillsUp capacity Keeps)
    (hwrite : ∀ bytes writer, P writer → P (write bytes writer).2) :
    FillsUp capacity fun writer kept => Keeps writer kept ∧ P writer where
  within hkeeps := hwriter.within hkeeps.1
  answers := by
    rintro bytes kept writer _ hbytes ⟨hkeeps, hP⟩ rfl
    have hanswers := hwriter.answers hbytes hkeeps rfl
    have hnext := hwrite bytes writer hP
    -- What is said of an answer depends on its form, but says of the next state what it keeps.
    generalize write bytes writer = answer at hanswers hnext
    obtain ⟨(_ | count) | _ | error, next⟩ := answer
    · exact ⟨hanswers.1, hanswers.2, hnext⟩
    · exact ⟨hanswers.1, hanswers.2, hnext⟩
    · exact ⟨hanswers, hnext⟩
    · exact ⟨hanswers.1, hanswers.2, hnext⟩

namespace BoundedBytes

theorem flushError_write (bytes : List UInt8) (w : BoundedBytes) :
    (w.write bytes).2.flushError = w.flushError := by
  unfold write
  split
  · rfl
  · split
    · rfl
    · rfl

/-- A writer without a capacity or an error to come has kept the bytes. -/
def Holds (w : BoundedBytes) (kept : List UInt8) : Prop :=
  w.Keeps none kept ∧ w.flushError = none

theorem holds_unlimited : unlimited.Holds [] :=
  ⟨⟨rfl, by simp [unlimited], rfl, by simp⟩, rfl⟩

theorem fillsUp_holds : ByteWriter.FillsUp none Holds :=
  (fillsUp none).preserves fun bytes w hnone => by
    change (w.write bytes).2.flushError = none
    rw [flushError_write, hnone]

theorem Holds.kept_eq {w : BoundedBytes} {text : String} (hholds : w.Holds (utf8 text)) :
    w.kept = text.toByteArray :=
  ByteArray.ext (Array.toList_inj.mp hholds.1.kept_eq)

theorem Holds.flush_eq {w : BoundedBytes} {kept : List UInt8} (hholds : w.Holds kept) :
    Sink.flush (⟨w⟩ : ByteSink BoundedBytes) = .ok () ⟨w⟩ := by
  have hflush : ByteWriter.flush w = .ok () w := by
    change w.flush = .ok () w
    rw [flush, hholds.2]
  simp only [Sink.flush, ByteSink.flush, hflush]

/-- A device that fails does so at the first byte, be it one of the line or its end. -/
theorem accept_failing (error : DeviceError) (line : String) :
    Sink.accept line (⟨failing error⟩ : ByteSink BoundedBytes) =
      .error (.device error) ⟨{ failing error with calls := 1 }⟩ := by
  have hput {bytes : List UInt8} (hbytes : bytes ≠ []) :
      ByteSink.put bytes (⟨failing error⟩ : ByteSink BoundedBytes) =
        .error (.device error) ⟨{ failing error with calls := 1 }⟩ := by
    have hanswer : ByteWriter.write bytes (failing error) =
        (.failed error, { failing error with calls := 1 }) := by
      have hcalm : ¬ Interrupts (failing error).interruptEvery (failing error).calls := by
        simp [Interrupts, failing, unlimited]
      have hfull : (failing error).portion bytes = [] := rfl
      change (failing error).write bytes = _
      rw [write, if_neg hcalm, hfull]
      rfl
    rw [ByteSink.put, ByteWriter.writeAll_eq hbytes, hanswer]
  rw [ByteSink.accept_eq]
  -- An empty text is not offered at all; then it is the line end that is refused.
  by_cases hline : utf8 line = []
  · have hnothing : ByteSink.put (utf8 line) (⟨failing error⟩ : ByteSink BoundedBytes) =
        .ok () ⟨failing error⟩ := by
      rw [hline, ByteSink.put, ByteWriter.writeAll_nil]
    rw [hnothing]
    exact hput (by decide)
  · rw [hput hline]

end BoundedBytes

/-- A device without limits takes any lines, each with its end. -/
theorem exists_takes_unlimited (lines : List String) :
    ∃ last : BoundedBytes, last.Holds (utf8 (terminated lines)) ∧
      Sink.Takes lines (⟨.unlimited⟩ : ByteSink BoundedBytes) ⟨last⟩ := by
  have hsink := ByteSink.fillsUp BoundedBytes.fillsUp_holds
  have htakes : ∃ last : ByteSink BoundedBytes, Sink.Takes lines ⟨.unlimited⟩ last ∧
      last.writer.Holds ([] ++ utf8 (terminated lines)) :=
    hsink.takes BoundedBytes.holds_unlimited (by simp)
  obtain ⟨⟨last⟩, htakes, hlast⟩ := htakes
  exact ⟨last, hlast, htakes⟩

theorem refuses_failing (error : DeviceError) {lines : List String} (hlines : lines ≠ []) :
    Sink.Refuses lines (⟨.failing error⟩ : ByteSink BoundedBytes) 0 (.device error)
      ⟨{ BoundedBytes.failing error with calls := 1 }⟩ := by
  obtain ⟨line, rest, rfl⟩ := List.exists_cons_of_ne_nil hlines
  exact ⟨line, _, rfl, .nil _, BoundedBytes.accept_failing error line⟩

end TreeDump
