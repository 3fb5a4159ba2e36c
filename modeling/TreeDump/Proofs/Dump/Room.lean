import Mathlib.Data.List.TakeWhile
import TreeDump.Dump.Checked
import TreeDump.Proofs.Dump.Lines

namespace TreeDump

/-- The line has room in a dump at the depth: its indentation fits into a text. -/
def LayoutLine.Fits (indent : Indent) (depth : Depth) (line : LayoutLine) : Prop :=
  indent.Fits (depth.below line.offset)

instance (indent : Indent) (depth : Depth) (line : LayoutLine) :
    Decidable (line.Fits indent depth) :=
  inferInstanceAs (Decidable (Indent.Fits _ _))

section

variable {α : Type} [NodeLike α]

/-- All lines of the node have room. -/
def HasRoom (indent : Indent) (depth : Depth) (node : α) : Prop :=
  ∀ line ∈ (toNode node).layout, line.Fits indent depth

instance (indent : Indent) (depth : Depth) (node : α) : Decidable (HasRoom indent depth node) :=
  inferInstanceAs (Decidable (∀ line ∈ _, _))

/-- The lines of the node before the first that has no room. -/
def fittingLayout (indent : Indent) (depth : Depth) (node : α) : List LayoutLine :=
  (toNode node).layout.takeWhile fun line => decide (line.Fits indent depth)

def fittingLines (indent : Indent) (depth : Depth) (node : α) : List String :=
  (fittingLayout indent depth node).map (·.render indent depth)

variable {indent : Indent} {depth : Depth} {node : α}

theorem fits_of_mem_fittingLayout {line : LayoutLine}
    (hline : line ∈ fittingLayout indent depth node) : line.Fits indent depth := by
  have hfits := List.mem_takeWhile_imp hline
  simpa using hfits

theorem HasRoom.fittingLayout_eq (hroom : HasRoom indent depth node) :
    fittingLayout indent depth node = (toNode node).layout := by
  rw [fittingLayout, List.takeWhile_eq_self_iff]
  intro line hline
  exact decide_eq_true (hroom line hline)

/-- There is room for all lines if there is for one as far in as the deepest of them. -/
theorem HasRoom.of_fits {levels : Nat} (hlevels : ∀ line ∈ (toNode node).layout, line.offset ≤ levels)
    (hfits : indent.Fits (depth.below levels)) : HasRoom indent depth node := by
  intro line hline
  have hle := hlevels line hline
  apply hfits.of_le
  simp only [Depth.level_below]
  omega

/-- Without room for all lines there is a first that has none. -/
theorem exists_layout_eq_of_not_hasRoom (hroom : ¬ HasRoom indent depth node) :
    ∃ line rest, (toNode node).layout = fittingLayout indent depth node ++ line :: rest ∧
      ¬ line.Fits indent depth := by
  let fits (line : LayoutLine) : Bool := decide (line.Fits indent depth)
  have hsplit : (toNode node).layout.takeWhile fits ++ (toNode node).layout.dropWhile fits =
      (toNode node).layout := List.takeWhile_append_dropWhile
  cases hrest : (toNode node).layout.dropWhile fits with
  | nil =>
    rw [hrest, List.append_nil] at hsplit
    refine absurd ?_ hroom
    intro line hline
    rw [← hsplit] at hline
    exact fits_of_mem_fittingLayout hline
  | cons line rest =>
    refine ⟨line, rest, ?_, ?_⟩
    · rw [← hrest]
      exact hsplit.symm
    · have hhead := List.head?_dropWhile_not fits (toNode node).layout
      rw [hrest] at hhead
      simpa [fits] using hhead

end

namespace CheckedM

variable {σ α β : Type} {first : CheckedM σ α} {before after : DumpState σ}

theorem bind_of_ok {a : α} (hfirst : first.run before = .ok (.ok a) after)
    (next : α → CheckedM σ β) : (first >>= next).run before = (next a).run after := by
  rw [ExceptT.run_bind, DumpM.bind_of_ok hfirst]

theorem bind_of_fault {fault : Fault} (hfirst : first.run before = .ok (.error fault) after)
    (next : α → CheckedM σ β) : (first >>= next).run before = .ok (.error fault) after := by
  rw [ExceptT.run_bind, DumpM.bind_of_ok hfirst]
  rfl

theorem bind_of_error {error : DumpError} (hfirst : first.run before = .error error after)
    (next : α → CheckedM σ β) : (first >>= next).run before = .error error after := by
  rw [ExceptT.run_bind, DumpM.bind_of_error hfirst]

theorem bind_congr {second : CheckedM σ α} (hfirst : first.run before = second.run before)
    (next : α → CheckedM σ β) : (first >>= next).run before = (second >>= next).run before := by
  rw [ExceptT.run_bind, ExceptT.run_bind]
  simp only [bind, EStateM.bind, hfirst]

/-- What was done without looking out for faults met none. -/
theorem run_lift_of_ok {x : DumpM σ α} {a : α} (hx : x before = .ok a after) :
    (liftM x : CheckedM σ α).run before = .ok (.ok a) after := by
  change (Except.ok <$> x : DumpM σ (Except Fault α)) before = _
  simp only [Functor.map, EStateM.map, hx]

theorem run_lift_of_error {x : DumpM σ α} {error : DumpError} (hx : x before = .error error after) :
    (liftM x : CheckedM σ α).run before = .error error after := by
  change (Except.ok <$> x : DumpM σ (Except Fault α)) before = _
  simp only [Functor.map, EStateM.map, hx]

theorem get_eq_ok (state : DumpState σ) :
    (get : CheckedM σ (DumpState σ)).run state = .ok (.ok state) state := rfl

section

variable [Sink σ] {indent : Indent} {depth : Depth}

theorem log_eq_ok (event : Event) (sink : σ) (indent : Indent) (count : Nat) (events : Array Event) :
    (MonadDump.log event : CheckedM σ Unit).run ⟨sink, indent, count, events⟩ =
      .ok (.ok ()) ⟨sink, indent, count, events.push event⟩ := rfl

theorem linesWritten_eq_ok (state : DumpState σ) :
    (MonadDump.linesWritten : CheckedM σ Nat).run state = .ok (.ok state.lines) state := rfl

/-- Where there is room, a line is written as if nobody looked out for faults. -/
theorem writeLine_of_fits (hfits : indent.Fits depth) (text : String) (sink : σ) (count : Nat)
    (log : Array Event) :
    (MonadDump.writeLine depth text : CheckedM σ Unit).run ⟨sink, indent, count, log⟩ =
      (liftM (MonadDump.writeLine depth text : DumpM σ Unit) : CheckedM σ Unit).run
        ⟨sink, indent, count, log⟩ := by
  change (writeLine depth text).run _ = _
  rw [writeLine, bind_of_ok (get_eq_ok _), if_pos hfits]
  rfl

theorem writeLine_of_not_fits (hfits : ¬ indent.Fits depth) (text : String) (sink : σ) (count : Nat)
    (log : Array Event) :
    (MonadDump.writeLine depth text : CheckedM σ Unit).run ⟨sink, indent, count, log⟩ =
      .ok (.error .indentTooWide) ⟨sink, indent, count, log⟩ := by
  change (writeLine depth text).run _ = _
  rw [writeLine, bind_of_ok (get_eq_ok _), if_neg hfits]
  rfl

end

end CheckedM

section Layout

variable {σ : Type} [Sink σ] {indent : Indent} {depth : Depth} {layout : List LayoutLine}

/-- Lines that all have room are written as if nobody looked out for faults. -/
theorem CheckedM.writeLayout_of_fits (hfits : ∀ line ∈ layout, line.Fits indent depth) (sink : σ)
    (count : Nat) (log : Array Event) :
    (writeLayout depth layout : CheckedM σ Unit).run ⟨sink, indent, count, log⟩ =
      (liftM (writeLayout depth layout : DumpM σ Unit) : CheckedM σ Unit).run
        ⟨sink, indent, count, log⟩ := by
  induction layout generalizing sink count with
  | nil => rfl
  | cons line layout ih =>
    have hline : line.Fits indent depth := hfits line List.mem_cons_self
    have hrest := ih fun other hother => hfits other (List.mem_cons_of_mem line hother)
    have hwrite := writeLine_of_fits hline line.text sink count log
    rw [writeLayout, writeLayout, liftM_bind]
    cases haccept : Sink.accept (line.render indent depth) sink with
    | ok _ next =>
      have hok := run_lift_of_ok (DumpM.writeLine_of_ok haccept count log)
      rw [bind_of_ok (hwrite.trans hok), bind_of_ok hok]
      exact hrest next (count + 1)
    | error source last =>
      have herror := run_lift_of_error (DumpM.writeLine_of_error haccept count log)
      rw [bind_of_error (hwrite.trans herror), bind_of_error herror]

end Layout

namespace CheckedM

variable {σ α : Type} [Sink σ] [Dumpable α] {indent : Indent} {depth : Depth} {node : α}
  {sink last : σ}

/-- Where all lines have room, nothing is found by looking out for faults. -/
theorem announced_of_hasRoom (hroom : HasRoom indent depth node) (sink : σ) (count : Nat)
    (log : Array Event) :
    (announced depth node : CheckedM σ Unit).run ⟨sink, indent, count, log⟩ =
      (liftM (dump depth node : DumpM σ Unit) : CheckedM σ Unit).run
        ⟨sink, indent, count, log⟩ := by
  have hwrite := writeLayout_of_fits hroom sink count (log.push (.started (NodeLike.kind node) depth))
  rw [← Dumpable.writeLines_eq_writeLayout, ← Dumpable.writeLines_eq_writeLayout] at hwrite
  have hlog := run_lift_of_ok
    (DumpM.log_eq_ok (.started (NodeLike.kind node) depth) sink indent count log)
  rw [dump, announced, announced]
  simp only [liftM_bind]
  rw [bind_of_ok (log_eq_ok ..), bind_of_ok (linesWritten_eq_ok _), bind_of_ok hlog,
    bind_of_ok (run_lift_of_ok (DumpM.linesWritten_eq_ok _))]
  exact bind_congr hwrite _

/-- The lines before the first without room are written as if nobody looked out for faults. -/
theorem writeLayout_fittingLayout (indent : Indent) (depth : Depth) (node : α) (sink : σ)
    (count : Nat) (log : Array Event) :
    (writeLayout depth (fittingLayout indent depth node) : CheckedM σ Unit).run
        ⟨sink, indent, count, log⟩ =
      (liftM (writeLayout depth (fittingLayout indent depth node) : DumpM σ Unit) :
        CheckedM σ Unit).run ⟨sink, indent, count, log⟩ :=
  writeLayout_of_fits (fun _ => fits_of_mem_fittingLayout) sink count log

/-- A line without room ends the dump with the lines before it. -/
theorem announced_of_not_hasRoom (hroom : ¬ HasRoom indent depth node)
    (htakes : Sink.Takes (fittingLines indent depth node) sink last) (count : Nat)
    (log : Array Event) :
    (announced depth node : CheckedM σ Unit).run ⟨sink, indent, count, log⟩ =
      .ok (.error .indentTooWide) ⟨last, indent, count + (fittingLines indent depth node).length,
        log.push (.started (NodeLike.kind node) depth)⟩ := by
  obtain ⟨line, rest, hlayout, hline⟩ := exists_layout_eq_of_not_hasRoom hroom
  have hfitting := writeLayout_fittingLayout indent depth node sink count
    (log.push (.started (NodeLike.kind node) depth))
  rw [run_lift_of_ok (writeLayout_of_takes htakes _ _)] at hfitting
  rw [announced, bind_of_ok (log_eq_ok ..), bind_of_ok (linesWritten_eq_ok _)]
  refine bind_of_fault ?_ _
  rw [Dumpable.writeLines_eq_writeLayout, hlayout, writeLayout_append, writeLayout,
    bind_of_ok hfitting, fittingLines, List.length_map]
  exact bind_of_fault (writeLine_of_not_fits hline ..) _

/-- A refusal among the lines that have room is an error, whatever comes behind it. -/
theorem announced_of_refuses {index : Nat} {source : SinkError}
    (hrefuses : Sink.Refuses (fittingLines indent depth node) sink index source last) (count : Nat)
    (log : Array Event) :
    (announced depth node : CheckedM σ Unit).run ⟨sink, indent, count, log⟩ =
      .error (.write (count + index) source) ⟨last, indent, count + index,
        (log.push (.started (NodeLike.kind node) depth)).push
          (.rejected (count + index) source)⟩ := by
  obtain ⟨rest, hlayout⟩ : fittingLayout indent depth node <+: (toNode node).layout :=
    List.takeWhile_prefix _
  have hfitting := writeLayout_fittingLayout indent depth node sink count
    (log.push (.started (NodeLike.kind node) depth))
  rw [run_lift_of_error (writeLayout_of_refuses hrefuses _ _)] at hfitting
  rw [announced, bind_of_ok (log_eq_ok ..), bind_of_ok (linesWritten_eq_ok _)]
  refine bind_of_error ?_ _
  rw [Dumpable.writeLines_eq_writeLayout, ← hlayout, writeLayout_append]
  exact bind_of_error hfitting _

end CheckedM

end TreeDump
