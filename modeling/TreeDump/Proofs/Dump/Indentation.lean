import TreeDump.Proofs.Dump.Lines
import TreeDump.Tree.Children

namespace TreeDump

namespace Indent

/-- The indentation of so many levels. -/
def times (indent : Indent) (levels : Nat) : String :=
  String.join (List.replicate levels indent.unit)

theorem times_add (indent : Indent) (first second : Nat) :
    indent.times (first + second) = indent.times first ++ indent.times second := by
  rw [times, ← List.replicate_append_replicate, String.join_append, times, times]

theorem lead_eq_times (indent : Indent) (depth : Depth) :
    indent.lead depth = indent.times depth.level := by
  have hrepeat (levels : Nat) : levels.repeat (· ++ indent.unit) "" = indent.times levels := by
    induction levels with
    | zero => rfl
    | succ levels ih =>
      rw [Nat.repeat, ih, times_add]
      simp [times]
  rw [lead_eq_repeat, hrepeat]

/-- Levels of blanks are as many blanks as their widths add up to. -/
theorem toList_times_of_ofWidth {indent : Indent} {width : Nat}
    (hwidth : ofWidth width = .ok indent) (levels : Nat) :
    (indent.times levels).toList = List.replicate (width * levels) ' ' := by
  have hunit : indent.unit.toList = List.replicate width ' ' := by
    unfold ofWidth at hwidth
    split at hwidth
    · cases hwidth
      exact String.toList_ofList
    · cases hwidth
  rw [times, String.toList_join]
  induction levels with
  | zero => rfl
  | succ levels ih =>
    rw [List.replicate_succ, List.flatMap_cons, ih, hunit, List.replicate_append_replicate,
      Nat.mul_succ, Nat.add_comm]

end Indent

namespace LayoutLine

theorem render_eq_times (indent : Indent) (depth : Depth) (line : LayoutLine) :
    line.render indent depth =
      indent.times (min (depth.level + line.offset) Depth.limit) ++ line.text := by
  rw [render, Indent.lead_eq_times, Depth.level_below]

/-- Where there is room, going further in puts the same indentation before every line. -/
theorem render_deeper (indent : Indent) {depth deeper : Depth} {further : Nat} {line : LayoutLine}
    (hdeeper : deeper.level = depth.level + further)
    (hroom : deeper.level + line.offset ≤ Depth.limit) :
    line.render indent deeper = indent.times further ++ line.render indent depth := by
  have hshallow : depth.level + line.offset ≤ Depth.limit := by omega
  have hsum : deeper.level + line.offset = further + (depth.level + line.offset) := by omega
  rw [render_eq_times, render_eq_times, Nat.min_eq_left hroom, Nat.min_eq_left hshallow, hsum,
    Indent.times_add, String.append_assoc]

/-- The text begins with a character other than a blank. -/
def Unindented (line : LayoutLine) : Prop :=
  ∃ c, line.text.toList.head? = some c ∧ c ≠ ' '

theorem unindented_map_below {layout : List LayoutLine}
    (hunindented : ∀ line ∈ layout, line.Unindented) (levels : Nat) :
    ∀ line ∈ layout.map (LayoutLine.below levels), line.Unindented := by
  intro line hline
  obtain ⟨inner, hinner, rfl⟩ := List.mem_map.mp hline
  exact hunindented inner hinner

end LayoutLine

/-- The three lines of a literal. The last two are one level further in, if the depth has room. -/
theorem Literal.dumpedLines_eq (indent : Indent) (depth : Depth) (literal : Literal) :
    dumpedLines indent depth literal =
      [indent.times depth.level ++ headerText literal,
        indent.times (min (depth.level + 1) Depth.limit) ++ ("type: " ++ literal.info.kind.name),
        indent.times (min (depth.level + 1) Depth.limit) ++ ("value: " ++ literal.value.text)] := by
  have hlayout : (toNode literal).layout = literal.layout := rfl
  have hhere : min (depth.level + 0) Depth.limit = depth.level := Nat.min_eq_left depth.level_le
  rw [dumpedLines_eq_map_render, hlayout]
  simp only [layout, List.map_cons, List.map_nil, LayoutLine.render_eq_times, hhere]

section Unindented

theorem Identifier.unindented_layout (i : Identifier) : ∀ line ∈ i.layout, line.Unindented := by
  simp [layout, LayoutLine.Unindented, headerText]

theorem Literal.unindented_layout (l : Literal) : ∀ line ∈ l.layout, line.Unindented := by
  simp [layout, LayoutLine.Unindented, headerText]

theorem Expression.unindented_layout (e : Expression) : ∀ line ∈ e.layout, line.Unindented := by
  simp [layout, LayoutLine.Unindented, headerText]

theorem Declarator.unindented_layout (d : Declarator) : ∀ line ∈ d.layout, line.Unindented := by
  have hid := LayoutLine.unindented_map_below d.id.unindented_layout 2
  have hinit := LayoutLine.unindented_map_below d.init.unindented_layout 2
  intro line hline
  rw [layout, List.mem_append, List.mem_append] at hline
  obtain (hhead | hline) | hline := hline
  · revert line
    simp [LayoutLine.Unindented, headerText]
  · exact hid line hline
  · obtain rfl | hline := List.mem_cons.mp hline
    · exact ⟨'i', rfl, by decide⟩
    · exact hinit line hline

theorem Declaration.unindented_layout (d : Declaration) : ∀ line ∈ d.layout, line.Unindented := by
  intro line hline
  rw [layout, List.mem_append, List.mem_flatMap] at hline
  obtain hhead | ⟨declarator, _, hline⟩ := hline
  · revert line
    simp [LayoutLine.Unindented, headerText]
  · exact LayoutLine.unindented_map_below declarator.unindented_layout 1 line hline

theorem Program.unindented_headLayout (p : Program) : ∀ line ∈ p.headLayout, line.Unindented := by
  simp [headLayout, LayoutLine.Unindented, headerText]

/-- No line of a node is empty, and none adds blanks of its own to the indentation. -/
theorem Node.unindented_layout (node : Node) : ∀ line ∈ node.layout, line.Unindented := by
  induction node using Node.children_induction with
  | hstep node ih =>
    cases node with
    | program info body =>
      intro line hline
      rw [layout, bodyLayout_eq_flatMap, List.mem_append, List.mem_flatMap] at hline
      obtain hhead | ⟨child, hchild, hline⟩ := hline
      · exact Program.unindented_headLayout _ line hhead
      · exact LayoutLine.unindented_map_below (ih child hchild) 2 line hline
    | declaration d => exact d.unindented_layout
    | declarator d => exact d.unindented_layout
    | identifier i => exact i.unindented_layout
    | expression e => exact e.unindented_layout
    | literal l => exact l.unindented_layout

end Unindented

/-- The number of blanks in front of a text. -/
def leadingBlanks (text : String) : Nat :=
  (text.toList.takeWhile (· == ' ')).length

theorem leadingBlanks_replicate_append {front text : String} {count : Nat} {c : Char}
    (hfront : front.toList = List.replicate count ' ') (htext : text.toList.head? = some c)
    (hc : c ≠ ' ') : leadingBlanks (front ++ text) = count := by
  obtain ⟨rest, hrest⟩ := List.head?_eq_some_iff.mp htext
  have hblank : ∀ x ∈ List.replicate count ' ', (x == ' ') = true := by
    intro x hx
    rw [(List.mem_replicate.mp hx).2]
    rfl
  rw [leadingBlanks, String.toList_append, hfront, hrest, List.takeWhile_append_of_pos hblank,
    List.takeWhile_cons_of_neg (by simpa using hc), List.append_nil, List.length_replicate]

/-- A node has one layout for all dumps: every line stands at the depth of the dump plus its own
    offset, or at the largest depth, with the indent repeated that often in front of a text that
    begins with no blank. Therefore the blanks of an indent of given width can be counted, and a
    dump from further in is the same dump with more indentation, as long as no line reaches the
    largest depth. -/
theorem dump_indents_layout {α : Type} [Dumpable α] (node : α) :
    ∃ layout : List LayoutLine,
      (∀ (indent : Indent) (depth : Depth),
        DumpResult.error? (dump depth node (.start (#[] : Array String) indent)) = none ∧
        dumpedLines indent depth node = layout.map fun line =>
          indent.times (min (depth.level + line.offset) Depth.limit) ++ line.text) ∧
      (∀ line ∈ layout, line.text ≠ "" ∧ line.text.toList.head? ≠ some ' ') ∧
      (∀ (width : Nat) (indent : Indent) (depth : Depth), Indent.ofWidth width = .ok indent →
        (dumpedLines indent depth node).map leadingBlanks = layout.map fun line =>
          width * min (depth.level + line.offset) Depth.limit) ∧
      ∀ (indent : Indent) (depth deeper : Depth) (further : Nat),
        deeper.level = depth.level + further →
        (∀ line ∈ layout, deeper.level + line.offset ≤ Depth.limit) →
        dumpedLines indent deeper node =
          (dumpedLines indent depth node).map (indent.times further ++ ·) := by
  have hunindented := (toNode node).unindented_layout
  refine ⟨(toNode node).layout, ?_, ?_, ?_, ?_⟩
  · intro indent depth
    refine ⟨by rw [dump_array]; rfl, ?_⟩
    rw [dumpedLines_eq_map_render]
    exact List.map_congr_left fun line _ => line.render_eq_times indent depth
  · intro line hline
    obtain ⟨c, hhead, hc⟩ := hunindented line hline
    refine ⟨?_, ?_⟩
    · rintro hempty
      rw [hempty] at hhead
      cases hhead
    · rw [hhead]
      simpa using hc
  · intro width indent depth hwidth
    rw [dumpedLines_eq_map_render, List.map_map]
    apply List.map_congr_left
    intro line hline
    obtain ⟨c, hhead, hc⟩ := hunindented line hline
    rw [Function.comp_apply, LayoutLine.render_eq_times]
    exact leadingBlanks_replicate_append (Indent.toList_times_of_ofWidth hwidth _) hhead hc
  · intro indent depth deeper further hdeeper hroom
    rw [dumpedLines_eq_map_render, dumpedLines_eq_map_render, List.map_map]
    apply List.map_congr_left
    intro line hline
    exact LayoutLine.render_deeper indent hdeeper (hroom line hline)

end TreeDump
