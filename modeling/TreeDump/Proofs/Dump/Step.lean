import TreeDump.Proofs.Dump.Lines

namespace TreeDump

/-- One dump among those into the same sink. The node may come in any of its types; an announced
    dump also logs its start and its end. -/
structure DumpStep where
  {Subject : Type}
  [dumpable : Dumpable Subject]
  node : Subject
  depth : Depth
  announced : Bool

attribute [instance] DumpStep.dumpable

namespace DumpStep

def kind (step : DumpStep) : NodeKind :=
  NodeLike.kind step.node

/-- The lines of the node, whatever the sink takes of them. -/
def lines (indent : Indent) (step : DumpStep) : List String :=
  dumpedLines indent step.depth (toNode step.node)

/-- The events before the first line. -/
def opening (step : DumpStep) : List Event :=
  if step.announced then [.started step.kind step.depth] else []

/-- The events after the last line, if so many lines were written and none was refused. -/
def closing (step : DumpStep) (written : Nat) : List Event :=
  if step.announced then [.finished step.kind written] else []

def run {σ : Type} [Sink σ] (step : DumpStep) : DumpM σ Unit :=
  if step.announced then dump step.depth step.node else Dumpable.writeLines step.depth step.node

section

variable {σ : Type} [Sink σ] {step : DumpStep} {indent : Indent} {sink last : σ}

theorem lines_eq_map_render (indent : Indent) (step : DumpStep) :
    step.lines indent = (toNode step.node).layout.map (·.render indent step.depth) := by
  rw [lines, dumpedLines_toNode, dumpedLines_eq_map_render]

theorem run_of_takes (htakes : Sink.Takes (step.lines indent) sink last) (count : Nat)
    (log : Array Event) :
    step.run ⟨sink, indent, count, log⟩ =
      .ok () ⟨last, indent, count + (step.lines indent).length,
        log ++ (step.opening ++ step.closing (step.lines indent).length)⟩ := by
  rw [lines_eq_map_render] at htakes
  rw [lines_eq_map_render, List.length_map, run, opening, closing]
  by_cases hannounced : step.announced
  · simpa [hannounced, kind] using dump_of_takes htakes count log
  · simpa [hannounced, Dumpable.writeLines_eq_writeLayout] using
      writeLayout_of_takes htakes count log

theorem run_of_refuses {index : Nat} {source : SinkError}
    (hrefuses : Sink.Refuses (step.lines indent) sink index source last) (count : Nat)
    (log : Array Event) :
    step.run ⟨sink, indent, count, log⟩ =
      .error (.write (count + index) source) ⟨last, indent, count + index,
        log ++ (step.opening ++ [.rejected (count + index) source])⟩ := by
  rw [lines_eq_map_render] at hrefuses
  rw [run, opening]
  by_cases hannounced : step.announced
  · simpa [hannounced, kind] using dump_of_refuses hrefuses count log
  · simpa [hannounced, Dumpable.writeLines_eq_writeLayout] using
      writeLayout_of_refuses hrefuses count log

end

end DumpStep

/-- The state without the record of the calls. -/
def DumpState.unrecorded {σ : Type} : DumpState (Recorded σ) → DumpState σ
  | ⟨⟨sink, _⟩, indent, lines, log⟩ => ⟨sink, indent, lines, log⟩

/-- The result without the record of the calls. -/
def DumpResult.unrecorded {σ : Type} : DumpResult (Recorded σ) → DumpResult σ
  | .ok () state => .ok () state.unrecorded
  | .error error state => .error error state.unrecorded

namespace DumpStep

variable {σ : Type} [Sink σ]

/-- A record of the calls has no influence on a dump. -/
theorem unrecorded_run (step : DumpStep) (state : DumpState (Recorded σ)) :
    DumpResult.unrecorded (step.run state) = step.run state.unrecorded := by
  obtain ⟨⟨sink, calls⟩, indent, count, log⟩ := state
  obtain ⟨last, htakes⟩ | ⟨index, source, last, hrefuses⟩ :=
    Sink.takes_or_refuses (step.lines indent) sink
  · rw [run_of_takes (htakes.recorded calls)]
    exact (run_of_takes htakes count log).symm
  · rw [run_of_refuses (hrefuses.recorded calls)]
    exact (run_of_refuses hrefuses count log).symm

/-- A dump offers the lines of its node one after the other until the first refusal. If the sink
    takes them all, the dump succeeds; otherwise its error is that of the refused line, which is the
    last one offered. It makes no difference in which type the node comes, whether the dump is
    announced, what was written before, or how the sink comes to its answers. -/
theorem run_refines_offering (step : DumpStep) (sink : σ) (indent : Indent) (count : Nat)
    (log : Array Event) :
    let lines := step.lines indent
    let result : DumpResult σ := step.run ⟨sink, indent, count, log⟩
    let recorded : DumpResult (Recorded σ) := step.run ⟨⟨sink, []⟩, indent, count, log⟩
    recorded.unrecorded = result ∧
      ((∃ last, Sink.Takes lines sink last ∧
          result.error? = none ∧ result.state.sink = last ∧
          result.state.lines = count + lines.length ∧
          recorded.state.sink.calls.map (·.line) = lines) ∨
        ∃ index source last, Sink.Refuses lines sink index source last ∧
          result.error? = some (.write (count + index) source) ∧ result.state.sink = last ∧
          result.state.lines = count + index ∧
          recorded.state.sink.calls.map (·.line) = lines.take (index + 1)) := by
  intro lines result recorded
  refine ⟨unrecorded_run step _, ?_⟩
  obtain ⟨last, htakes⟩ | ⟨index, source, last, hrefuses⟩ := Sink.takes_or_refuses lines sink
  · have hresult : result = .ok () _ := run_of_takes htakes count log
    have hrecorded : recorded = .ok () _ := run_of_takes (htakes.recorded []) count log
    refine .inl ⟨last, htakes, ?_⟩
    rw [hresult, hrecorded]
    exact ⟨rfl, rfl, rfl, Call.lines_map_accepted lines⟩
  · have hresult : result = .error _ _ := run_of_refuses hrefuses count log
    have hrecorded : recorded = .error _ _ := run_of_refuses (hrefuses.recorded []) count log
    refine .inr ⟨index, source, last, hrefuses, ?_⟩
    rw [hresult, hrecorded]
    exact ⟨rfl, rfl, rfl, Call.lines_refusedAt lines index source⟩

end DumpStep

end TreeDump
