import TreeDump.Proofs.Dump.Indentation
import TreeDump.Proofs.Dump.OwnLines
import TreeDump.Proofs.Tree.Visit

namespace TreeDump

/-- The text without the blanks in front of it. -/
def stripBlanks (text : String) : String :=
  String.ofList (text.toList.dropWhile (· == ' '))

/-- The first characters of the text are those of the other. -/
def beginsWith (start text : String) : Bool :=
  start.toList.isPrefixOf text.toList

theorem LayoutLine.stripBlanks_render {indent : Indent} {width : Nat}
    (hwidth : Indent.ofWidth width = .ok indent) (depth : Depth) {line : LayoutLine}
    (hline : line.Unindented) : stripBlanks (line.render indent depth) = line.text := by
  obtain ⟨c, hhead, hc⟩ := hline
  obtain ⟨rest, hrest⟩ := List.head?_eq_some_iff.mp hhead
  have hblanks := Indent.toList_times_of_ofWidth hwidth (min (depth.level + line.offset) Depth.limit)
  rw [stripBlanks, render_eq_times, String.toList_append, hblanks, hrest,
    List.dropWhile_append_of_pos (by simp), List.dropWhile_cons_of_neg (by simpa using hc), ← hrest,
    String.ofList_toList]

namespace NodeKind

/-- The number of lines that a node of the kind has apart from those of the nodes in it. -/
def lineCount : NodeKind → Nat
  | .program => 3
  | .declaration => 4
  | .declarator => 4
  | .identifier => 3
  | .expression => 2
  | .literal => 3

end NodeKind

namespace Node

theorem length_ownLines (node : Node) : node.ownLines.length = node.variant.lineCount := by
  cases node <;> rfl

/-- Each node has one header, and no other line of it begins like one. -/
theorem picked_header_ownLines (node : Node) :
    picked (beginsWith "[") node.ownLines = [⟨0, headerText node⟩] := by
  cases node <;>
    simp [ownLines, picked, beginsWith, headerText, Program.headLayout, Identifier.layout,
      Literal.layout, Expression.layout, NodeLike.label, label]

/-- Each node has one line that names a kind, which is the stored one where that is right. -/
theorem texts_picked_kind_ownLines {node : Node} (hkind : node.kind = node.variant) :
    (picked (beginsWith "type: ") node.ownLines).map (·.text) = ["type: " ++ node.kind.name] := by
  cases node <;> simp only [kind, info, variant] at hkind <;>
    simp [ownLines, picked, beginsWith, headerText, Program.headLayout, Identifier.layout,
      Literal.layout, Expression.layout, kind, info, hkind]

theorem length_layout (node : Node) :
    node.layout.length = (node.preorder.map fun visited => visited.2.variant.lineCount).sum := by
  have hones := node.sum_map_layout fun _ => 1
  simpa [length_ownLines] using hones

end Node

namespace Node

/-- The headers of a layout are those of the places, in pre-order and as far in as the places are. -/
theorem picked_header_layout (node : Node) :
    picked (beginsWith "[") node.layout =
      node.places.map fun place => ⟨place.offset, headerText place.node⟩ := by
  have hplace (place : Place) : picked (beginsWith "[") place.lines =
      [⟨place.offset, headerText place.node⟩] := by
    rw [Place.lines, picked_below, picked_header_ownLines]
    rfl
  rw [picked_layout_places (by decide)]
  simp only [hplace]
  exact List.flatMap_pure_eq_map _ _

theorem texts_picked_kind_layout {node : Node} (htagged : node.Tagged) :
    (picked (beginsWith "type: ") node.layout).map (·.text) =
      node.preorder.map fun visited => "type: " ++ visited.2.kind.name := by
  rw [texts_picked_layout (by decide), List.flatMap_map]
  calc (node.preorder.flatMap fun visited =>
          (picked (beginsWith "type: ") visited.2.ownLines).map (·.text))
      = node.preorder.flatMap fun visited => ["type: " ++ visited.2.kind.name] :=
        List.flatMap_congr fun visited hvisited =>
          texts_picked_kind_ownLines (htagged visited hvisited)
    _ = node.preorder.map fun visited => "type: " ++ visited.2.kind.name :=
        List.flatMap_pure_eq_map _ _

end Node

section Rendered

variable {indent : Indent} {width : Nat}

theorem map_stripBlanks_render (hwidth : Indent.ofWidth width = .ok indent) (depth : Depth)
    (node : Node) :
    (node.layout.map (·.render indent depth)).map stripBlanks = node.layout.map (·.text) := by
  rw [List.map_map]
  exact List.map_congr_left fun line hline =>
    LayoutLine.stripBlanks_render hwidth depth (node.unindented_layout line hline)

/-- The lines that pass a test without their indentation are those picked from the layout. -/
theorem filter_render (hwidth : Indent.ofWidth width = .ok indent) (depth : Depth)
    (test : String → Bool) (node : Node) :
    (node.layout.map (·.render indent depth)).filter (fun line => test (stripBlanks line)) =
      (picked test node.layout).map (·.render indent depth) := by
  rw [List.filter_map, picked]
  congr 1
  refine List.filter_congr fun line hline => ?_
  rw [Function.comp_apply,
    LayoutLine.stripBlanks_render hwidth depth (node.unindented_layout line hline)]

/-- The lines of a dump that pass a test without their indentation have the texts picked from the
    layout. -/
theorem filter_map_stripBlanks_dumpedLines {α : Type} [Dumpable α]
    (hwidth : Indent.ofWidth width = .ok indent) (depth : Depth) (test : String → Bool) (node : α) :
    ((dumpedLines indent depth node).map stripBlanks).filter test =
      (picked test (toNode node).layout).map (·.text) := by
  rw [dumpedLines_eq_map_render, map_stripBlanks_render hwidth, List.filter_map]
  rfl

theorem leadingBlanks_render (hwidth : Indent.ofWidth width = .ok indent) (depth : Depth)
    {line : LayoutLine} (hline : line.Unindented) :
    leadingBlanks (line.render indent depth) =
      width * min (depth.level + line.offset) Depth.limit := by
  obtain ⟨c, hhead, hc⟩ := hline
  rw [LayoutLine.render_eq_times]
  exact leadingBlanks_replicate_append (Indent.toList_times_of_ofWidth hwidth _) hhead hc

end Rendered

/-- A dump, the pre-order walk and the counter see the same nodes. Without their indentation, the lines
    that begin with a bracket are the headers of the walk and those that begin with `type: ` name its
    kinds, one for one and in order, whatever the names and values are. The header of a child stands
    two levels further in than that of a program or declarator, and one further in than that of a
    declaration, unless the largest depth is reached. It is assumed that the count at the end, `count`
    and the length of the walk together, still fits in a machine word. -/
theorem dump_shows_preorder {α : Type} [Dumpable α] [Visitable α] {node : α}
    (htagged : (toNode node).Tagged) {width : Nat} {indent : Indent}
    (hwidth : Indent.ofWidth width = .ok indent) (depth : Depth) (count : Nat) :
    let lines := dumpedLines indent depth node
    let walk := (toNode node).preorder.map (·.2)
    (lines.map stripBlanks).filter (beginsWith "[") =
        walk.map (fun visited => "[" ++ visited.label ++ "]:") ∧
      (lines.map stripBlanks).filter (beginsWith "type: ") =
        walk.map (fun visited => "type: " ++ visited.kind.name) ∧
      (toNode node).places.map (fun place => (place.above.length, place.node)) =
        (toNode node).preorder ∧
      (lines.filter fun line => beginsWith "[" (stripBlanks line)).map leadingBlanks =
        (toNode node).places.map (fun place =>
          width * min (depth.level + place.offset) Depth.limit) ∧
      lines.length = (walk.map (·.variant.lineCount)).sum ∧
      (visit Visitor.counter node).run count = ((), count + walk.length) := by
  intro lines walk
  have hlines : lines = (toNode node).layout.map (·.render indent depth) :=
    dumpedLines_eq_map_render indent depth node
  have hstripped : lines.map stripBlanks = (toNode node).layout.map (·.text) := by
    rw [hlines, map_stripBlanks_render hwidth]
  have htexts (test : String → Bool) : (lines.map stripBlanks).filter test =
      (picked test (toNode node).layout).map (·.text) := by
    rw [hstripped, List.filter_map]
    rfl
  have hwalk : walk = (toNode node).places.map (·.node) := (toNode node).map_node_places.symm
  refine ⟨?_, ?_, (toNode node).map_places, ?_, ?_, ?_⟩
  · rw [htexts, Node.picked_header_layout, List.map_map, hwalk, List.map_map]
    rfl
  · rw [htexts, Node.texts_picked_kind_layout htagged, List.map_map]
    rfl
  · rw [hlines, filter_render hwidth, Node.picked_header_layout, List.map_map, List.map_map]
    refine List.map_congr_left fun place _ => ?_
    exact leadingBlanks_render hwidth depth ⟨'[', by simp [headerText], by decide⟩
  · rw [hlines, List.length_map, Node.length_layout, List.map_map]
    rfl
  · rw [← Visitable.visitNode_toNode, Visitor.run_visitNode_counter, List.length_map]

/-- A name that looks like a header and a value that looks like a kind are not taken for one. -/
theorem dump_shows_preorder_despite_names :
    let bound : Declarator := .binding (.named "[Program]:") (.holding (.string "type: Program"))
    let tree : Node :=
      toNode (Program.empty.append (.declaration ((Declaration.empty .letWord).append bound)))
    let lines := dumpedLines ⟨"   "⟩ (Depth.zero.below 1) tree
    tree.Tagged ∧ Indent.ofWidth 3 = .ok ⟨"   "⟩ ∧
      (lines.map stripBlanks).filter (beginsWith "[") =
        ["[Program]:", "[VariableDeclaration]:", "[VariableDeclarator]:", "[Identifier]:",
          "[Literal]:"] ∧
      (lines.filter fun line => beginsWith "[" (stripBlanks line)).map leadingBlanks =
        [3, 9, 12, 18, 18] := by
  intro bound tree lines
  have htagged : tree.Tagged :=
    Program.tagged_append Program.tagged_empty
      (Declaration.tagged_append (Declaration.tagged_empty .letWord)
        (Declarator.tagged_binding (Identifier.tagged_named _) (Literal.tagged_holding _)))
  have hwidth : Indent.ofWidth 3 = .ok ⟨"   "⟩ := by rfl
  obtain ⟨hheaders, _, _, hblanks, _⟩ :=
    dump_shows_preorder htagged hwidth (Depth.zero.below 1) 0
  refine ⟨htagged, hwidth, hheaders.trans ?_, hblanks.trans ?_⟩
  · simp [bound, Node.preorder, Node.preorderFrom_eq, Node.children, Node.label, NodeLike.label, toNode,
      Program.empty, Program.append, Declaration.empty, Declaration.append]
  · simp [bound, Node.places, Node.placesFrom_eq, Node.children, Place.offset, Node.inset,
      toNode, Program.empty, Program.append, Declaration.empty, Declaration.append, Depth.zero, Depth.limit]

end TreeDump
