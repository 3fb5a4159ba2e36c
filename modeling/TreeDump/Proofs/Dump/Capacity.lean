import Mathlib.Order.Bounds.Basic
import TreeDump.Proofs.Dump.Step
import TreeDump.Proofs.Sink.Bounded

namespace TreeDump

/-- The dump wrote so many lines of a total, and if those were not all, it was stopped by such an error
    at the next one. -/
def DumpResult.StopsAfter {σ : Type} (count total : Nat) (Cause : SinkError → Prop)
    (result : DumpResult σ) : Prop :=
  result.state.lines = count ∧
    (count = total ∧ result.error? = none ∨
      count < total ∧ ∃ source, result.error? = some (.write count source) ∧ Cause source)

namespace Sink

/-- What is kept of lines once the one at `count` is refused, if there is such a line. -/
def leftBehind (residue : List UInt8 → String → List UInt8) (lines : List String) (count : Nat) :
    List UInt8 :=
  let taken := utf8 (terminated (lines.take count))
  match lines[count]? with
  | none => taken
  | some line => residue taken line

end Sink

/-- The text of the line that does not fit any more with its end, if it fits without. -/
def unfinished (capacity : Option Nat) (lines : List String) (count : Nat) : String :=
  match lines[count]? with
  | none => ""
  | some line =>
    if Within capacity (terminated (lines.take count) ++ line).utf8ByteSize then line else ""

section

variable {capacity : Option Nat} {lines : List String} {count : Nat}

/-- A device is filled up to its last byte. -/
theorem ByteSink.leftBehind_eq (hcount : Fitting capacity lines count) :
    Sink.leftBehind (residue capacity) lines count = upTo capacity (utf8 (terminated lines)) := by
  unfold Sink.leftBehind
  obtain ⟨rfl, hwithin⟩ | ⟨line, hline, _, hnot⟩ := hcount.all_or_next
  · rw [← length_utf8] at hwithin
    rw [List.getElem?_eq_none le_rfl, List.take_length, upTo_of_within hwithin]
  · rw [← length_utf8] at hnot
    rw [hline, utf8_terminated_eq_take_append lines (count + 1), upTo_append_of_not_within hnot,
      terminated_take_succ hline, utf8_append]
    rfl

/-- A text ends with a whole line or with one that only lacks its end. -/
theorem TextSink.leftBehind_eq (capacity : Option Nat) (lines : List String) (count : Nat) :
    Sink.leftBehind (residue capacity) lines count =
      utf8 (terminated (lines.take count) ++ unfinished capacity lines count) := by
  unfold Sink.leftBehind unfinished
  cases lines[count]? with
  | none => simp only [String.append_empty]
  | some line =>
    simp only [residue, ← utf8_append, length_utf8]
    split
    · rfl
    · rw [String.append_empty]

theorem unfinished_cases (capacity : Option Nat) (lines : List String) (count : Nat) :
    unfinished capacity lines count = "" ∨
      ∃ line, lines[count]? = some line ∧ unfinished capacity lines count = line ∧
        Within capacity (terminated (lines.take count) ++ line).utf8ByteSize := by
  unfold unfinished
  cases lines[count]? with
  | none => exact .inl rfl
  | some line =>
    by_cases htext : Within capacity (terminated (lines.take count) ++ line).utf8ByteSize
    · exact .inr ⟨line, rfl, if_pos htext, htext⟩
    · exact .inl (if_neg htext)

/-- What a text keeps comes first in what a device of the same capacity keeps. -/
theorem utf8_unfinished_isPrefix (hcount : Fitting capacity lines count) :
    utf8 (terminated (lines.take count) ++ unfinished capacity lines count) <+:
      upTo capacity (utf8 (terminated lines)) := by
  obtain hnone | ⟨line, hline, hsome, hwithin⟩ := unfinished_cases capacity lines count
  · rw [hnone, String.append_empty, utf8_terminated_eq_take_append lines count]
    exact isPrefix_upTo hcount.1.2 (List.prefix_append _ _)
  · rw [hsome, utf8_terminated_eq_take_append lines (count + 1), terminated_take_succ hline,
      ← String.append_assoc, utf8_append _ "\n", List.append_assoc]
    exact isPrefix_upTo hwithin (List.prefix_append _ _)

end

namespace DumpStep

/-- A dump writes as many lines as fit and is then stopped, whatever else the sink keeps. -/
theorem run_of_fillsUp {σ : Type} [Sink σ] {capacity : Option Nat} {Keeps : σ → List UInt8 → Prop}
    {residue : List UInt8 → String → List UInt8} {Cause : SinkError → Prop}
    (hsink : Sink.FillsUp capacity Keeps residue Cause) (sink : σ) (hkeeps : Keeps sink [])
    {step : DumpStep} {indent : Indent} {count : Nat}
    (hcount : Fitting capacity (step.lines indent) count) :
    let result : DumpResult σ := step.run (.start sink indent)
    result.StopsAfter count (step.lines indent).length Cause ∧
      Keeps result.state.sink (Sink.leftBehind residue (step.lines indent) count) := by
  intro result
  unfold Sink.leftBehind
  obtain ⟨rfl, hwithin⟩ | ⟨line, hline, hbefore, hnot⟩ := hcount.all_or_next
  · obtain ⟨last, htakes, hlast⟩ := hsink.takes hkeeps hwithin
    have hresult : result = .ok () _ := run_of_takes htakes 0 #[]
    rw [hresult, List.getElem?_eq_none le_rfl, List.take_length]
    exact ⟨⟨Nat.zero_add _, .inl ⟨rfl, rfl⟩⟩, hlast⟩
  · obtain ⟨source, last, hrefuses, hcause, hlast⟩ := hsink.refuses hkeeps hline hbefore hnot
    have hresult : result = .error _ _ := run_of_refuses hrefuses 0 #[]
    rw [hresult, hline]
    refine ⟨⟨Nat.zero_add _, .inr ⟨hrefuses.index_lt, source, ?_, hcause⟩⟩, hlast⟩
    rw [Nat.zero_add]
    rfl

end DumpStep

/-- A dump into a writer of limited capacity writes as many lines as fit, each with its end, and fails
    at the next line if there is one. A device keeps the bytes of all lines up to the capacity,
    however it divides what it is offered and whenever it interrupts. A text keeps the written lines
    and the next one without its end if that just fits, which is a part of what the device keeps. -/
theorem dump_into_limited {ω ψ : Type} [ByteWriter ω] [TextWriter ψ] {capacity : Option Nat}
    {KeepsBytes : ω → List UInt8 → Prop} {KeepsText : ψ → String → Prop}
    (hbytes : ByteWriter.FillsUp capacity KeepsBytes)
    (htext : TextWriter.KeepsWhole capacity KeepsText) {device : ω} (hdevice : KeepsBytes device [])
    {page : ψ} (hpage : KeepsText page "") (step : DumpStep) (indent : Indent) :
    let lines := step.lines indent
    let onDevice : DumpResult (ByteSink ω) := step.run (.start ⟨device⟩ indent)
    let onPage : DumpResult (TextSink ψ) := step.run (.start ⟨page⟩ indent)
    ∃ count, Fitting capacity lines count ∧
      onDevice.StopsAfter count lines.length (fun source => ∃ error, source = .device error) ∧
      KeepsBytes onDevice.state.sink.writer (upTo capacity (utf8 (terminated lines))) ∧
      onPage.StopsAfter count lines.length (fun source => source = .format) ∧
      KeepsText onPage.state.sink.writer
        (terminated (lines.take count) ++ unfinished capacity lines count) ∧
      utf8 (terminated (lines.take count) ++ unfinished capacity lines count) <+:
        upTo capacity (utf8 (terminated lines)) := by
  intro lines onDevice onPage
  obtain ⟨count, hcount⟩ := exists_fitting capacity lines
  obtain ⟨hdeviceStops, hdeviceKeeps⟩ :=
    DumpStep.run_of_fillsUp (ByteSink.fillsUp hbytes) ⟨device⟩ hdevice hcount
  obtain ⟨hpageStops, kept, hkept, heq⟩ :=
    DumpStep.run_of_fillsUp (TextSink.fillsUp htext) ⟨page⟩ ⟨"", hpage, rfl⟩ hcount
  rw [ByteSink.leftBehind_eq hcount] at hdeviceKeeps
  rw [TextSink.leftBehind_eq, utf8_inj] at heq
  rw [heq] at hkept
  exact ⟨count, hcount, hdeviceStops, hdeviceKeeps, hpageStops, hkept,
    utf8_unfinished_isPrefix hcount⟩

/-- The capacity may end within a letter. A device that takes two bytes at a time and interrupts every
    third call keeps its first byte; a text keeps nothing of the line. -/
theorem dump_into_limited_within_letter :
    let device : BoundedBytes :=
      { BoundedBytes.unlimited with capacity := some 42, chunk := some 2, interruptEvery := 3 }
    let page : BoundedText := ⟨some 42, ""⟩
    let step : DumpStep := ⟨Identifier.named "é", .zero, true⟩
    let onDevice : DumpResult (ByteSink BoundedBytes) := step.run (.start ⟨device⟩ .standard)
    let onPage : DumpResult (TextSink BoundedText) := step.run (.start ⟨page⟩ .standard)
    let full := terminated ["[Identifier]:", "  type: Identifier", "  name: é"]
    ByteWriter.FillsUp (some 42) (BoundedBytes.Keeps (some 42)) ∧
      TextWriter.KeepsWhole (some 42) (BoundedText.Keeps (some 42)) ∧
      device.Keeps (some 42) [] ∧ page.Keeps (some 42) "" ∧
      onDevice.state.lines = 2 ∧ onPage.state.lines = 2 ∧
      onDevice.state.sink.writer.kept.data.toList = (utf8 full).take 42 ∧
      onPage.state.sink.writer.kept = terminated ["[Identifier]:", "  type: Identifier"] := by
  intro device page step onDevice onPage full
  have hbytes := BoundedBytes.fillsUp (some 42)
  have htext := BoundedText.keepsWhole (some 42)
  have hdevice : device.Keeps (some 42) [] := ⟨rfl, by decide, rfl, by decide⟩
  have hpage : page.Keeps (some 42) "" := rfl
  obtain ⟨count, hcount, hdeviceStops, hdeviceKeeps, hpageStops, hpageKeeps, _⟩ :=
    dump_into_limited hbytes htext hdevice hpage step .standard
  have hlines : step.lines .standard = ["[Identifier]:", "  type: Identifier", "  name: é"] := rfl
  rw [hlines] at hcount hdeviceKeeps hpageKeeps
  have htwo : Fitting (some 42) ["[Identifier]:", "  type: Identifier", "  name: é"] 2 := by
    refine ⟨⟨by decide, by decide⟩, fun more ⟨hle, hwithin⟩ => ?_⟩
    by_contra hmore
    obtain rfl : more = 3 := Nat.le_antisymm hle (Nat.lt_of_not_le hmore)
    exact absurd hwithin (by decide)
  obtain rfl : count = 2 := IsGreatest.unique hcount htwo
  exact ⟨hbytes, htext, hdevice, hpage, hdeviceStops.1, hpageStops.1, hdeviceKeeps.kept_eq,
    congrArg BoundedText.kept hpageKeeps⟩

end TreeDump
