import TreeDump.Command.Dump
import TreeDump.Proofs.Dump.Room
import TreeDump.Proofs.Dump.Unambiguous
import TreeDump.Proofs.Sink.Extremes

namespace TreeDump

namespace CheckedM

variable {σ α : Type} [Sink σ] [Dumpable α] {indent : Indent} {depth : Depth} {node : α}
  {sink last : σ}

theorem dumpAndFlush_of_hasRoom (hroom : HasRoom indent depth node)
    (htakes : Sink.Takes (dumpedLines indent depth node) sink last) {flushed : σ}
    (hflush : Sink.flush last = .ok () flushed) :
    (dumpAndFlush depth node).run (.start sink indent) =
      .ok (.ok ()) ⟨flushed, indent, (dumpedLines indent depth node).length,
        #[.started (NodeLike.kind node) depth,
          .finished (NodeLike.kind node) (dumpedLines indent depth node).length]⟩ := by
  have hdump := announced_of_hasRoom hroom sink 0 #[]
  rw [dumpedLines_eq_map_render] at htakes ⊢
  rw [run_lift_of_ok (dump_of_takes htakes 0 #[])] at hdump
  rw [dumpAndFlush, DumpState.start, bind_of_ok hdump]
  apply run_lift_of_ok
  simp [DumpM.flush, hflush]

theorem dumpAndFlush_of_not_hasRoom (hroom : ¬ HasRoom indent depth node)
    (htakes : Sink.Takes (fittingLines indent depth node) sink last) :
    (dumpAndFlush depth node).run (.start sink indent) =
      .ok (.error .indentTooWide) ⟨last, indent, (fittingLines indent depth node).length,
        #[.started (NodeLike.kind node) depth]⟩ := by
  rw [dumpAndFlush, DumpState.start, bind_of_fault (announced_of_not_hasRoom hroom htakes 0 #[])]
  simp

theorem dumpAndFlush_of_refuses {index : Nat} {source : SinkError}
    (hrefuses : Sink.Refuses (fittingLines indent depth node) sink index source last) :
    (dumpAndFlush depth node).run (.start sink indent) =
      .error (.write index source) ⟨last, indent, index,
        #[.started (NodeLike.kind node) depth, .rejected index source]⟩ := by
  rw [dumpAndFlush, DumpState.start, bind_of_error (announced_of_refuses hrefuses 0 #[])]
  simp

end CheckedM

/-- Every node has a line. -/
theorem dumpedLines_ne_nil {α : Type} [Dumpable α] (indent : Indent) (depth : Depth) (node : α) :
    dumpedLines indent depth node ≠ [] := by
  obtain ⟨label, rest, _, hlayout⟩ := (toNode node).beginsWithHeader
  simp [dumpedLines_eq_map_render, hlayout]

/-- The first line of a node stands at the depth of the dump, so it is the first to lack room. -/
theorem fittingLines_eq_nil_iff {α : Type} [Dumpable α] (indent : Indent) (depth : Depth) (node : α) :
    fittingLines indent depth node = [] ↔ ¬ indent.Fits depth := by
  obtain ⟨label, rest, _, hlayout⟩ := (toNode node).beginsWithHeader
  rw [fittingLines, List.map_eq_nil_iff, fittingLayout, hlayout, List.takeWhile_cons]
  simp [LayoutLine.Fits]

theorem not_hasRoom_of_not_fits {α : Type} [Dumpable α] {indent : Indent} {depth : Depth}
    (hfits : ¬ indent.Fits depth) (node : α) : ¬ HasRoom indent depth node := by
  intro hroom
  have hnone := (fittingLines_eq_nil_iff indent depth node).mpr hfits
  rw [fittingLines, hroom.fittingLayout_eq, ← dumpedLines_eq_map_render] at hnone
  exact dumpedLines_ne_nil indent depth node hnone

namespace Command

/-- The conditions that an output is in. -/
inductive Condition where
  | writable
  /-- Every write fails, and always with this error. -/
  | full (error : DeviceError)

def Condition.device : Condition → BoundedBytes
  | .writable => .unlimited
  | .full error => .failing error

/-- The node that is dumped. -/
def Root.subject : Root → Node
  | .program => toNode sampleProgram
  | .declaration => toNode sampleDeclaration

/-- What a run does, whichever filter it has. -/
structure Conduct where
  exitCode : Nat
  output : ByteArray
  /-- All that happens, be it shown or not. -/
  events : List Event
  report : List String

/-- Depth, node, width and the condition of the output determine what a run does. -/
def conduct (condition : Condition) (depth : Depth) (root : Root) (width : Nat) : Conduct :=
  match Indent.ofWidth width with
  | .error fault => ⟨101, .empty, [builtSample], [fault.message]⟩
  | .ok indent =>
    let subject := root.subject
    let lines := dumpedLines indent depth subject
    match condition with
    | .writable =>
      if HasRoom indent depth subject then
        ⟨0, (terminated lines).toByteArray,
          [builtSample, .started subject.kind depth, .finished subject.kind lines.length], []⟩
      else
        ⟨101, (terminated (fittingLines indent depth subject)).toByteArray,
          [builtSample, .started subject.kind depth], [Fault.indentTooWide.message]⟩
    | .full error =>
      if indent.Fits depth then
        ⟨1, .empty, [builtSample, .started subject.kind depth, .rejected 0 (.device error)],
          Failure.report (.dump (.write 0 (.device error)))⟩
      else
        ⟨101, .empty, [builtSample, .started subject.kind depth], [Fault.indentTooWide.message]⟩

/-- Where not even the first line has room, the run is cut short after the start of the dump, and it
    makes no difference that the output is full. -/
theorem conduct_of_maxWidth_lt {width : Nat} {depth : Depth} (hwidth : width ≤ Indent.maxWidth)
    (htotal : Indent.maxWidth < width * depth.level) (condition : Condition) (root : Root) :
    conduct condition depth root width =
      ⟨101, .empty, [builtSample, .started root.subject.kind depth],
        [Fault.indentTooWide.message]⟩ := by
  obtain ⟨indent, hindent⟩ := Indent.exists_ofWidth_eq_ok hwidth
  have hfits : ¬ indent.Fits depth := by
    rw [Indent.fits_iff_of_ofWidth hindent]
    omega
  have hnone := (fittingLines_eq_nil_iff indent depth root.subject).mpr hfits
  rw [conduct, hindent]
  cases condition with
  | writable => simp [not_hasRoom_of_not_fits hfits, hnone, terminated]
  | full error => simp [hfits]

/-- The sample program has a declaration, so there is a node to dump. -/
theorem dumpSample_eq (device : BoundedBytes) (indent : Indent) (depth : Depth) (root : Root) :
    dumpSample device indent depth root =
      .ofResult ((CheckedM.dumpAndFlush depth root.subject).run (.start ⟨device⟩ indent)) := by
  cases root with
  | program => rfl
  | declaration => rfl

theorem dumpSample_failure_ne (device : BoundedBytes) (indent : Indent) (depth : Depth)
    (root : Root) : (dumpSample device indent depth root).failure ≠ some .noDeclaration := by
  rw [dumpSample_eq]
  unfold Trace.ofResult
  split <;> simp

section

variable {indent : Indent} {depth : Depth} {root : Root}

theorem dumpSample_unlimited (hroom : HasRoom indent depth root.subject) :
    let lines := dumpedLines indent depth root.subject
    ∃ last : BoundedBytes, last.kept = (terminated lines).toByteArray ∧
      dumpSample .unlimited indent depth root =
        ⟨last, [.started root.subject.kind depth, .finished root.subject.kind lines.length],
          none⟩ := by
  intro lines
  obtain ⟨last, hlast, htakes⟩ := exists_takes_unlimited lines
  refine ⟨last, hlast.kept_eq, ?_⟩
  rw [dumpSample_eq, CheckedM.dumpAndFlush_of_hasRoom hroom htakes hlast.flush_eq]
  rfl

theorem dumpSample_unlimited_of_not_hasRoom (hroom : ¬ HasRoom indent depth root.subject) :
    ∃ last : BoundedBytes,
      last.kept = (terminated (fittingLines indent depth root.subject)).toByteArray ∧
      dumpSample .unlimited indent depth root =
        ⟨last, [.started root.subject.kind depth], some (.fault .indentTooWide)⟩ := by
  obtain ⟨last, hlast, htakes⟩ := exists_takes_unlimited (fittingLines indent depth root.subject)
  refine ⟨last, hlast.kept_eq, ?_⟩
  rw [dumpSample_eq, CheckedM.dumpAndFlush_of_not_hasRoom hroom htakes]
  rfl

theorem dumpSample_failing (root : Root) (error : DeviceError) (hfits : indent.Fits depth) :
    ∃ last : BoundedBytes, last.kept = .empty ∧
      dumpSample (.failing error) indent depth root =
        ⟨last, [.started root.subject.kind depth, .rejected 0 (.device error)],
          some (.dump (.write 0 (.device error)))⟩ := by
  have hlines : fittingLines indent depth root.subject ≠ [] := by
    rw [Ne, fittingLines_eq_nil_iff, not_not]
    exact hfits
  refine ⟨{ BoundedBytes.failing error with calls := 1 }, rfl, ?_⟩
  rw [dumpSample_eq, CheckedM.dumpAndFlush_of_refuses (refuses_failing error hlines)]
  rfl

theorem dumpSample_failing_of_not_fits (root : Root) (error : DeviceError)
    (hfits : ¬ indent.Fits depth) :
    dumpSample (.failing error) indent depth root =
      ⟨.failing error, [.started root.subject.kind depth], some (.fault .indentTooWide)⟩ := by
  have hroom := not_hasRoom_of_not_fits hfits root.subject
  have hnone := (fittingLines_eq_nil_iff indent depth root.subject).mpr hfits
  have htakes : Sink.Takes (fittingLines indent depth root.subject)
      (⟨.failing error⟩ : ByteSink BoundedBytes) ⟨.failing error⟩ := by
    rw [hnone]
    exact .nil _
  rw [dumpSample_eq, CheckedM.dumpAndFlush_of_not_hasRoom hroom htakes]
  rfl

end

/-- A run with options and a filter does what it does with any other filter, and shows of it what the
    filter lets through. -/
theorem runOptions_eq (filter : EventFilter) (condition : Condition) (options : Options) :
    let conduct := conduct condition options.depth options.root options.indent
    runOptions filter condition.device options =
      ⟨conduct.exitCode, conduct.output, filter.notes, filter.lines conduct.events,
        conduct.report⟩ := by
  unfold runOptions conduct
  cases Indent.ofWidth options.indent with
  | error fault => cases condition <;> rfl
  | ok indent =>
    cases condition with
    | writable =>
      by_cases hroom : HasRoom indent options.depth options.root.subject
      · obtain ⟨last, hlast, htrace⟩ := dumpSample_unlimited hroom
        simp only [Condition.device, htrace, hlast, if_pos hroom]
      · obtain ⟨last, hlast, htrace⟩ := dumpSample_unlimited_of_not_hasRoom hroom
        simp only [Condition.device, htrace, hlast, if_neg hroom]
        rfl
    | full error =>
      by_cases hfits : indent.Fits options.depth
      · obtain ⟨last, hlast, htrace⟩ := dumpSample_failing options.root error hfits
        simp only [Condition.device, htrace, hlast, if_pos hfits]
        rfl
      · have htrace := dumpSample_failing_of_not_fits options.root error hfits
        simp only [Condition.device, htrace, if_neg hfits]
        rfl

/-- A run that is asked to dump and has a filter is that of its options. -/
theorem runWith_eq {ε : Type} {reader : FilterReader ε} {arguments : List String}
    {options : Options} {outside : Option ε} {filter : EventFilter}
    (hdump : Request.ofArguments arguments = .ok (.dump options))
    (hfilter : reader.choose outside options.logLevel = .ok filter) (condition : Condition) :
    let conduct := conduct condition options.depth options.root options.indent
    runWith reader arguments outside condition.device =
      ⟨conduct.exitCode, conduct.output, filter.notes, filter.lines conduct.events,
        conduct.report⟩ := by
  rw [runWith, hdump]
  simp only [hfilter]
  exact runOptions_eq filter condition options

end Command

end TreeDump
