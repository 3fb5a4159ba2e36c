import Mathlib.Order.Bounds.Basic
import TreeDump.Proofs.Dump.Account
import TreeDump.Proofs.Sink.Bounded
import TreeDump.Proofs.Sink.Continuing

namespace TreeDump

namespace DumpStep

variable {σ : Type} [Sink σ]

/-- A dump offers lines of its node from the front, and does nothing else to the sink. -/
theorem exists_sink_run_eq (step : DumpStep) (state : DumpState σ) :
    ∃ count, (DumpResult.state (step.run state)).sink =
      Sink.offerAll ((step.lines state.indent).take count) state.sink := by
  obtain ⟨sink, indent, lines, log⟩ := state
  obtain ⟨last, htakes⟩ | ⟨index, source, last, hrefuses⟩ :=
    Sink.takes_or_refuses (step.lines indent) sink
  · refine ⟨(step.lines indent).length, ?_⟩
    rw [run_of_takes htakes, List.take_length, htakes.offerAll_eq]
    rfl
  · refine ⟨index + 1, ?_⟩
    rw [run_of_refuses hrefuses, hrefuses.offerAll_take_eq]
    rfl

theorem exists_sink_runAll_eq {steps : List DumpStep} {state : DumpState σ} {result : DumpResult σ}
    (hresult : result ∈ runAll steps state) :
    ∃ offered, result.state.sink = Sink.offerAll offered state.sink := by
  induction steps generalizing state with
  | nil => cases hresult
  | cons step steps ih =>
    obtain ⟨count, hsink⟩ := exists_sink_run_eq step state
    rw [runAll, List.mem_cons] at hresult
    obtain rfl | hresult := hresult
    · exact ⟨_, hsink⟩
    · obtain ⟨offered, hoffered⟩ := ih hresult
      rw [hsink, ← Sink.offerAll_append] at hoffered
      exact ⟨_, hoffered⟩

end DumpStep

/-- Writers of limited capacity go on after a refusal without spoiling what they have kept. A text
    keeps the accepted lines, each with its end, and at most one line more, which has no end, uses the
    capacity up and is the last; a refusal leaves the text as it was, or full. A device keeps what it
    would have kept of all lines at once, and takes none after the first that it refused, not even
    an empty one. Dumps that go on after a failure do nothing but offer lines. -/
theorem writers_go_on_after_refusals {ω ψ : Type} [ByteWriter ω] [TextWriter ψ] {capacity : Option Nat}
    {KeepsBytes : ω → List UInt8 → Prop} {KeepsText : ψ → String → Prop}
    (hbytes : ByteWriter.FillsUp capacity KeepsBytes)
    (htext : TextWriter.KeepsWhole capacity KeepsText) {device : ω} (hdevice : KeepsBytes device [])
    {page : ψ} (hpage : KeepsText page "") (lines : List String) :
    let onPage := Sink.offerAll lines (⟨⟨page⟩, []⟩ : Recorded (TextSink ψ))
    let onDevice := Sink.offerAll lines (⟨⟨device⟩, []⟩ : Recorded (ByteSink ω))
    (onPage.sink = Sink.offerAll lines ⟨page⟩ ∧ onPage.calls.map (·.line) = lines ∧
      ∃ tail, TextSink.Remains capacity onPage.calls tail ∧
        let kept := terminated (Call.acceptedLines onPage.calls) ++ tail
        KeepsText onPage.sink.writer kept ∧
        ∀ line, (Within capacity (kept ++ (line ++ "\n")).utf8ByteSize ∧
            ∃ next, Sink.offer line onPage = ⟨next, onPage.calls ++ [.accepted line]⟩ ∧
              KeepsText next.writer (kept ++ (line ++ "\n"))) ∨
          ¬ Within capacity (kept ++ (line ++ "\n")).utf8ByteSize ∧
            ∃ next more, Sink.offer line onPage = ⟨next, onPage.calls ++ [.refused line .format]⟩ ∧
              KeepsText next.writer (kept ++ more) ∧
              (more = "" ∨ more = line ∧ capacity = some (kept ++ more).utf8ByteSize)) ∧
    (onDevice.sink = Sink.offerAll lines ⟨device⟩ ∧ onDevice.calls.map (·.line) = lines ∧
      KeepsBytes onDevice.sink.writer (upTo capacity (utf8 (terminated lines))) ∧
      ∃ count refusals, Fitting capacity lines count ∧
        onDevice.calls = (lines.take count).map .accepted ++ refusals ∧
        ∀ call ∈ refusals, ∃ error, call.refusal? = some (.device error)) ∧
    ∀ {σ : Type} [Sink σ] (sink : σ) (steps : List DumpStep) (indent : Indent),
      ∀ result ∈ DumpStep.runAll steps (.start (⟨sink, []⟩ : Recorded σ) indent),
        result.state.sink = Sink.offerAll (result.state.sink.calls.map (·.line)) ⟨sink, []⟩ := by
  intro onPage onDevice
  have hpageStart : KeepsText (TextSink.mk page).writer "" := hpage
  have hdeviceStart : KeepsBytes (ByteSink.mk device).writer [] := hdevice
  obtain ⟨hpageSink, hpageLines⟩ :=
    Sink.sink_offerAll_recorded lines (⟨⟨page⟩, []⟩ : Recorded (TextSink ψ))
  obtain ⟨hdeviceSink, hdeviceLines⟩ :=
    Sink.sink_offerAll_recorded lines (⟨⟨device⟩, []⟩ : Recorded (ByteSink ω))
  obtain ⟨calls, last, tail, honPage, hkept, hremains⟩ :=
    TextSink.offerAll_eq htext hpageStart lines
  obtain ⟨count, refusals, final, hcount, honDevice, hrefusals, hfinal⟩ :=
    ByteSink.offerAll_eq hbytes hdeviceStart lines
  refine ⟨⟨hpageSink, hpageLines, ?_⟩, ⟨hdeviceSink, hdeviceLines, ?_⟩, ?_⟩
  · rw [show onPage = ⟨last, calls⟩ from honPage]
    exact ⟨tail, hremains, hkept, fun line => TextSink.offer_eq htext hkept line calls⟩
  · rw [show onDevice = _ from honDevice]
    exact ⟨hfinal, count, refusals, hcount, rfl, hrefusals⟩
  · intro σ _ sink steps indent result hresult
    obtain ⟨offered, hsink⟩ := DumpStep.exists_sink_runAll_eq hresult
    have hoffered := (Sink.sink_offerAll_recorded offered (⟨sink, []⟩ : Recorded σ)).2
    rw [hsink, DumpState.start, hoffered]
    rfl

/-- With room for eight bytes, a text can refuse a long line, keep most of a shorter one and refuse
    even an empty line then; a device fills up with the long line. -/
theorem writers_go_on_up_to_eight_bytes :
    let page : BoundedText := ⟨some 8, ""⟩
    let device : BoundedBytes :=
      { BoundedBytes.unlimited with capacity := some 8, chunk := some 3, interruptEvery := 2 }
    let lines := ["abcd", "é: too long", "xé", "", "z"]
    let onPage := Sink.offerAll lines (⟨⟨page⟩, []⟩ : Recorded (TextSink BoundedText))
    let onDevice := Sink.offerAll lines (⟨⟨device⟩, []⟩ : Recorded (ByteSink BoundedBytes))
    ByteWriter.FillsUp (some 8) (BoundedBytes.Keeps (some 8)) ∧
      TextWriter.KeepsWhole (some 8) (BoundedText.Keeps (some 8)) ∧
      device.Keeps (some 8) [] ∧ page.Keeps (some 8) "" ∧
      onPage.sink.writer.kept = "abcd\nxé" ∧ Call.acceptedLines onPage.calls = ["abcd"] ∧
      onDevice.sink.writer.kept.data.toList = utf8 "abcd\né:" ∧
      ∃ refusals, onDevice.calls = .accepted "abcd" :: refusals ∧
        refusals.map (·.line) = ["é: too long", "xé", "", "z"] ∧
        ∀ call ∈ refusals, call.refusal? ≠ none := by
  intro page device lines onPage onDevice
  have hbytes := BoundedBytes.fillsUp (some 8)
  have htext := BoundedText.keepsWhole (some 8)
  have hdevice : device.Keeps (some 8) [] := ⟨rfl, by decide, rfl, by decide⟩
  have hpage : page.Keeps (some 8) "" := rfl
  obtain ⟨_, ⟨_, hlines, hfilled, count, refusals, hcount, hcalls, hrefusals⟩, _⟩ :=
    writers_go_on_after_refusals hbytes htext hdevice hpage lines
  have hone : Fitting (some 8) lines 1 := by
    have hmost : ∀ more, more ≤ 5 →
        Within (some 8) (terminated (lines.take more)).utf8ByteSize → more ≤ 1 := by decide
    exact ⟨⟨by decide, by decide⟩, fun more ⟨hle, hwithin⟩ => hmost more hle hwithin⟩
  obtain rfl : count = 1 := IsGreatest.unique hcount hone
  refine ⟨hbytes, htext, hdevice, hpage, by decide, by decide, hfilled.kept_eq, refusals, hcalls, ?_, ?_⟩
  · rw [hcalls] at hlines
    exact List.tail_eq_of_cons_eq hlines
  · intro call hcall hnone
    obtain ⟨error, hrefusal⟩ := hrefusals call hcall
    rw [hnone] at hrefusal
    cases hrefusal

end TreeDump
