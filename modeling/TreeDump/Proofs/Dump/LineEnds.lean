import TreeDump.Proofs.Dump.Indentation
import TreeDump.Proofs.Dump.OwnLines
import TreeDump.Proofs.Number.Plain
import TreeDump.Proofs.Sink.LineEnds

namespace TreeDump

theorem Keyword.lineEnds_text (keyword : Keyword) : lineEnds keyword.text = 0 := by
  cases keyword <;> decide

theorem NodeKind.lineEnds_name (kind : NodeKind) : lineEnds kind.name = 0 := by
  cases kind <;> decide

theorem Binary64.lineEnds_text (x : Binary64) : lineEnds x.text = 0 := by
  rw [lineEnds_eq_zero_iff]
  intro hmem
  obtain hdigit | hother := mem_text hmem
  · exact absurd hdigit (by decide)
  · exact absurd hother (by decide)

namespace Scalar

/-- The string in a scalar, which is empty for the others. -/
def raw (value : Scalar) : String :=
  value.string?.getD ""

theorem lineEnds_text (value : Scalar) : lineEnds value.text = lineEnds value.raw := by
  cases value with
  | number value => exact value.lineEnds_text
  | string value => rfl
  | boolean value => cases value <;> decide
  | undefined => decide

end Scalar

namespace Node

/-- The text of a node that a dump writes as it is: the name or the string. -/
def raw : Node → String
  | .program _ _ => ""
  | .declaration _ => ""
  | .declarator _ => ""
  | .identifier i => i.name
  | .expression _ => ""
  | .literal l => l.value.raw

/-- The names and strings of a tree in pre-order, with an empty text for a node that has neither. -/
def raws (node : Node) : List String :=
  node.preorder.map (·.2.raw)

/-- The labels and the texts of keywords and kinds have no line end. -/
theorem sum_lineEnds_ownLines (node : Node) :
    (node.ownLines.map fun line => lineEnds line.text).sum = lineEnds node.raw := by
  cases node <;>
    simp (disch := decide) [ownLines, raw, Program.headLayout, Identifier.layout, Expression.layout,
      Literal.layout, headerText, NodeLike.label, lineEnds_of_not_mem, Keyword.lineEnds_text,
      NodeKind.lineEnds_name, Scalar.lineEnds_text]

theorem sum_lineEnds_layout (node : Node) :
    (node.layout.map fun line => lineEnds line.text).sum = (node.raws.map lineEnds).sum := by
  rw [sum_map_layout, raws, List.map_map]
  congr 1
  exact List.map_congr_left fun visited _ => visited.2.sum_lineEnds_ownLines

end Node

/-- A line keeps the line ends of its text: the indentation has none. -/
theorem LayoutLine.lineEnds_render {indent : Indent} {width : Nat}
    (hwidth : Indent.ofWidth width = .ok indent) (depth : Depth) (line : LayoutLine) :
    lineEnds (line.render indent depth) = lineEnds line.text := by
  have hblanks := Indent.toList_times_of_ofWidth hwidth (min (depth.level + line.offset) Depth.limit)
  have hnone : lineEnds (indent.times (min (depth.level + line.offset) Depth.limit)) = 0 := by
    refine lineEnds_of_not_mem fun hmem => ?_
    rw [hblanks] at hmem
    exact absurd (List.mem_replicate.mp hmem).2 (by decide)
  rw [render_eq_times, lineEnds_append, hnone, Nat.zero_add]

section

variable {α : Type} [Dumpable α]

/-- A text refuses no line of a dump and keeps all of them, each with its end. -/
theorem dump_text (indent : Indent) (depth : Depth) (node : α) :
    ∃ log, dump depth node (.start "" indent) =
      .ok () ⟨terminated (dumpedLines indent depth node), indent,
        (dumpedLines indent depth node).length, log⟩ := by
  have htakes := Sink.takes_text (dumpedLines indent depth node) ""
  rw [String.empty_append, dumpedLines_eq_map_render] at htakes
  have hdump := dump_of_takes htakes 0 #[]
  rw [Nat.zero_add] at hdump
  rw [dumpedLines_eq_map_render, List.length_map]
  exact ⟨_, hdump⟩

theorem sum_lineEnds_dumpedLines {indent : Indent} {width : Nat}
    (hwidth : Indent.ofWidth width = .ok indent) (depth : Depth) (node : α) :
    ((dumpedLines indent depth node).map lineEnds).sum = ((toNode node).raws.map lineEnds).sum := by
  rw [dumpedLines_eq_map_render, List.map_map, ← Node.sum_lineEnds_layout]
  congr 1
  exact List.map_congr_left fun line _ => line.lineEnds_render hwidth depth

end

/-- A text holds the end of every line that is written and, beside these, the line ends in the names and
    strings of the tree. The lines are whole, and can be read back from the text, exactly if there are
    none of those. Every line begins with its indentation in any case. -/
theorem dump_keeps_whole_lines_iff {α : Type} [Dumpable α] {width : Nat} {indent : Indent}
    (hwidth : Indent.ofWidth width = .ok indent) (depth : Depth) (node : α) :
    let lines := dumpedLines indent depth node
    let raws := (toNode node).raws
    let result : DumpResult String := dump depth node (.start "" indent)
    result.error? = none ∧ result.state.lines = lines.length ∧
      lineEnds result.state.sink = result.state.lines + (raws.map lineEnds).sum ∧
      ((∀ line ∈ lines, '\n' ∉ line.toList) ↔ ∀ text ∈ raws, '\n' ∉ text.toList) ∧
      (result.state.sink.toList.splitOn '\n' = lines.map String.toList ++ [[]] ↔
        ∀ text ∈ raws, '\n' ∉ text.toList) ∧
      lines = (toNode node).layout.map fun line =>
        indent.times (min (depth.level + line.offset) Depth.limit) ++ line.text := by
  intro lines raws result
  obtain ⟨log, hresult⟩ := dump_text indent depth node
  have hsum : (lines.map lineEnds).sum = (raws.map lineEnds).sum :=
    sum_lineEnds_dumpedLines hwidth depth node
  have hwhole : (∀ line ∈ lines, '\n' ∉ line.toList) ↔ ∀ text ∈ raws, '\n' ∉ text.toList := by
    rw [← sum_lineEnds_eq_zero_iff, hsum, sum_lineEnds_eq_zero_iff]
  have hstate : result.state = ⟨terminated lines, indent, lines.length, log⟩ :=
    congrArg DumpResult.state hresult
  rw [hstate]
  refine ⟨congrArg DumpResult.error? hresult, rfl, ?_, hwhole, ?_, ?_⟩
  · rw [lineEnds_terminated, hsum]
  · rw [splitOn_terminated_iff, hwhole]
  · exact (dumpedLines_eq_map_render indent depth node).trans
      (List.map_congr_left fun line _ => line.render_eq_times indent depth)

/-- Of ten lines one is broken in two, the name; the string beside it is whole. -/
theorem dump_keeps_whole_lines_but_name :
    let bound : Declarator := .binding (.named "a\nb") (.holding (.string "c"))
    let result : DumpResult String := dump (Depth.zero.below 1) bound (.start "" ⟨"   "⟩)
    Indent.ofWidth 3 = .ok ⟨"   "⟩ ∧ (toNode bound).raws = ["", "a\nb", "c"] ∧
      result.state.lines = 10 ∧ lineEnds result.state.sink = 11 := by
  intro bound result
  have hwidth : Indent.ofWidth 3 = .ok ⟨"   "⟩ := rfl
  have hraws : (toNode bound).raws = ["", "a\nb", "c"] := by
    simp [bound, Node.raws, Node.preorder, Node.preorderFrom_eq, Node.children, Node.raw, toNode,
      Declarator.binding, Identifier.named, Literal.holding, Scalar.raw, Scalar.string?]
  have hten : result.state.lines = 10 := rfl
  obtain ⟨_, _, hends, _⟩ := dump_keeps_whole_lines_iff hwidth (Depth.zero.below 1) bound
  refine ⟨hwidth, hraws, hten, hends.trans ?_⟩
  rw [hten, hraws]
  rfl

/-- A name with a line end in it is not written as one line, so the text has a line end more than it
    has lines and the lines cannot be read back from it. -/
theorem dump_breaks_name_in_two :
    let node : Identifier := .named "a\nb"
    let result : DumpResult String := dumpToText .zero node
    Indent.ofWidth 2 = .ok .standard ∧
      dumpedLines .standard .zero node = ["[Identifier]:", "  type: Identifier", "  name: a\nb"] ∧
      '\n' ∈ "  name: a\nb".toList ∧ result.state.lines = 3 ∧ lineEnds result.state.sink = 4 ∧
      result.state.sink.toList.splitOn '\n' =
        ["[Identifier]:", "  type: Identifier", "  name: a", "b", ""].map String.toList := by
  refine ⟨rfl, rfl, ?_, rfl, ?_, ?_⟩ <;> decide

end TreeDump
