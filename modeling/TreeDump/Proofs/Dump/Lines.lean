import TreeDump.Dump.Layout
import TreeDump.Dump.Output
import TreeDump.Proofs.Sink.Offering

namespace TreeDump

namespace DumpM

variable {σ α β : Type} {first : DumpM σ α} {before after : DumpState σ}

theorem bind_of_ok {a : α} (hfirst : first before = .ok a after) (next : α → DumpM σ β) :
    (first >>= next) before = next a after := by
  simp only [bind, EStateM.bind, hfirst]

theorem bind_of_error {error : DumpError} (hfirst : first before = .error error after)
    (next : α → DumpM σ β) : (first >>= next) before = .error error after := by
  simp only [bind, EStateM.bind, hfirst]

variable [Sink σ]

theorem log_eq_ok (event : Event) (sink : σ) (indent : Indent) (count : Nat)
    (events : Array Event) :
    (MonadDump.log event : DumpM σ Unit) ⟨sink, indent, count, events⟩ =
      .ok () ⟨sink, indent, count, events.push event⟩ :=
  rfl

theorem linesWritten_eq_ok (state : DumpState σ) :
    (MonadDump.linesWritten : DumpM σ Nat) state = .ok state.lines state := rfl

variable {indent : Indent} {depth : Depth} {text : String} {sink next : σ}

theorem writeLine_of_ok (haccept : Sink.accept (indent.lead depth ++ text) sink = .ok () next)
    (count : Nat) (log : Array Event) :
    (MonadDump.writeLine depth text : DumpM σ Unit) ⟨sink, indent, count, log⟩ =
      .ok () ⟨next, indent, count + 1, log⟩ := by
  change writeLine depth text _ = _
  simp only [writeLine, haccept]

theorem writeLine_of_error {source : SinkError}
    (hrefusal : Sink.accept (indent.lead depth ++ text) sink = .error source next)
    (count : Nat) (log : Array Event) :
    (MonadDump.writeLine depth text : DumpM σ Unit) ⟨sink, indent, count, log⟩ =
      .error (.write count source) ⟨next, indent, count, log.push (.rejected count source)⟩ := by
  change writeLine depth text _ = _
  simp only [writeLine, hrefusal]

end DumpM

section Layout

variable {σ : Type} [Sink σ] {indent : Indent} {depth : Depth} {layout : List LayoutLine}
  {sink last : σ}

/-- Lines that the sink takes are all written, and each is counted. -/
theorem writeLayout_of_takes (htakes : Sink.Takes (layout.map (·.render indent depth)) sink last)
    (count : Nat) (log : Array Event) :
    (writeLayout depth layout : DumpM σ Unit) ⟨sink, indent, count, log⟩ =
      .ok () ⟨last, indent, count + layout.length, log⟩ := by
  induction layout generalizing sink count with
  | nil =>
    cases htakes
    rfl
  | cons line layout ih =>
    cases htakes with
    | cons haccept htail =>
      rw [writeLayout, DumpM.bind_of_ok (DumpM.writeLine_of_ok haccept count log)]
      rw [ih htail (count + 1), List.length_cons, Nat.add_right_comm, Nat.add_assoc]

/-- The first refusal ends the writing. Only the lines before it are counted, and the sink is left
    as the refusal left it. -/
theorem writeLayout_of_refuses {index : Nat} {source : SinkError}
    (hrefuses : Sink.Refuses (layout.map (·.render indent depth)) sink index source last)
    (count : Nat) (log : Array Event) :
    (writeLayout depth layout : DumpM σ Unit) ⟨sink, indent, count, log⟩ =
      .error (.write (count + index) source)
        ⟨last, indent, count + index, log.push (.rejected (count + index) source)⟩ := by
  have hindex := hrefuses.index_lt
  obtain ⟨_, before, hline, htakes, hrefusal⟩ := hrefuses
  rw [List.length_map] at hindex
  rw [List.getElem?_map, List.getElem?_eq_getElem hindex, Option.map_some, Option.some_inj] at hline
  subst hline
  rw [← List.map_take] at htakes
  have hsplit : layout = layout.take index ++ layout[index] :: layout.drop (index + 1) := by simp
  have hcount : (layout.take index).length = index := List.length_take_of_le (Nat.le_of_lt hindex)
  rw [hsplit, writeLayout_append, DumpM.bind_of_ok (writeLayout_of_takes htakes count log), hcount]
  exact DumpM.bind_of_error (DumpM.writeLine_of_error hrefusal _ log) _

end Layout

/-- The lines that a dump leaves in a list that is empty at first. -/
def dumpedLines {α : Type} [Dumpable α] (indent : Indent) (depth : Depth) (node : α) :
    List String :=
  (DumpResult.state (dump depth node (.start (#[] : Array String) indent))).sink.toList

/-- A node in any of its types is written as the layout of the node it is. -/
theorem Dumpable.writeLines_eq_writeLayout {m : Type → Type} [Monad m] [MonadDump m] [LawfulMonad m]
    {α : Type} [Dumpable α] (depth : Depth) (node : α) :
    (Dumpable.writeLines depth node : m Unit) = writeLayout depth (toNode node).layout :=
  (Dumpable.writeLines_toNode depth node).symm.trans (Node.writeLines_eq_writeLayout depth _)

section Dump

variable {σ α : Type} [Sink σ] [Dumpable α] {indent : Indent} {depth : Depth} {node : α} {sink last : σ}

/-- A dump that the sink lets through logs its start and its end. The end tells the lines of this
    dump, whatever was written before. -/
theorem dump_of_takes
    (htakes : Sink.Takes ((toNode node).layout.map (·.render indent depth)) sink last)
    (count : Nat) (log : Array Event) :
    dump depth node ⟨sink, indent, count, log⟩ =
      .ok () ⟨last, indent, count + (toNode node).layout.length,
        (log.push (.started (NodeLike.kind node) depth)).push
          (.finished (NodeLike.kind node) (toNode node).layout.length)⟩ := by
  have hwrite := writeLayout_of_takes htakes count (log.push (.started (NodeLike.kind node) depth))
  have hlines : count + (toNode node).layout.length - count = (toNode node).layout.length :=
    Nat.add_sub_cancel_left _ _
  rw [← Dumpable.writeLines_eq_writeLayout] at hwrite
  rw [dump, announced, DumpM.bind_of_ok (DumpM.log_eq_ok ..), DumpM.bind_of_ok (DumpM.linesWritten_eq_ok _),
    DumpM.bind_of_ok hwrite, DumpM.bind_of_ok (DumpM.linesWritten_eq_ok _), DumpM.log_eq_ok, hlines]

theorem dump_of_refuses {index : Nat} {source : SinkError}
    (hrefuses :
      Sink.Refuses ((toNode node).layout.map (·.render indent depth)) sink index source last)
    (count : Nat) (log : Array Event) :
    dump depth node ⟨sink, indent, count, log⟩ =
      .error (.write (count + index) source) ⟨last, indent, count + index,
        (log.push (.started (NodeLike.kind node) depth)).push
          (.rejected (count + index) source)⟩ := by
  have hwrite := writeLayout_of_refuses hrefuses count
    (log.push (.started (NodeLike.kind node) depth))
  rw [← Dumpable.writeLines_eq_writeLayout] at hwrite
  rw [dump, announced, DumpM.bind_of_ok (DumpM.log_eq_ok ..), DumpM.bind_of_ok (DumpM.linesWritten_eq_ok _)]
  exact DumpM.bind_of_error hwrite _

end Dump

section DumpedLines

variable {α : Type} [Dumpable α]

/-- A list refuses no line of a dump and keeps all of them. -/
theorem dump_array (indent : Indent) (depth : Depth) (node : α) :
    dump depth node (.start (#[] : Array String) indent) =
      .ok () ⟨((toNode node).layout.map (·.render indent depth)).toArray, indent,
        (toNode node).layout.length,
        #[.started (NodeLike.kind node) depth,
          .finished (NodeLike.kind node) (toNode node).layout.length]⟩ := by
  have htakes := Sink.takes_array ((toNode node).layout.map (·.render indent depth)) #[]
  rw [Array.empty_append] at htakes
  have hdump := dump_of_takes htakes 0 #[]
  rwa [Nat.zero_add] at hdump

theorem dumpedLines_eq_map_render (indent : Indent) (depth : Depth) (node : α) :
    dumpedLines indent depth node = (toNode node).layout.map (·.render indent depth) := by
  rw [dumpedLines, dump_array]
  rfl

/-- The type a node is given in makes no difference to its lines. -/
theorem dumpedLines_toNode (indent : Indent) (depth : Depth) (node : α) :
    dumpedLines indent depth (toNode node) = dumpedLines indent depth node := by
  rw [dumpedLines_eq_map_render, dumpedLines_eq_map_render]
  rfl

end DumpedLines

end TreeDump
