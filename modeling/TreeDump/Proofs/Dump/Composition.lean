import TreeDump.Proofs.Dump.Lines
import TreeDump.Proofs.Dump.OwnLines
import TreeDump.Proofs.Tree.Context

namespace TreeDump

namespace LayoutLine

/-- Standing further in is being dumped from further in, even where the depth has no room. -/
theorem render_below (indent : Indent) (depth : Depth) (levels : Nat) (line : LayoutLine) :
    (line.below levels).render indent depth = line.render indent (depth.below levels) := by
  rw [render, render, below, Depth.below_below]

end LayoutLine

/-- A part of a layout that stands further in is rendered as the dump of its node from further in. -/
theorem map_render_layout_below {α : Type} [Dumpable α] (indent : Indent) (depth : Depth)
    (levels : Nat) (node : α) :
    ((toNode node).layout.map (LayoutLine.below levels)).map (LayoutLine.render indent depth) =
      dumpedLines indent (depth.below levels) node := by
  rw [dumpedLines_eq_map_render, List.map_map]
  refine List.map_congr_left fun line _ => ?_
  exact LayoutLine.render_below indent depth levels line

/-- How much further in the hole is than the node around it. -/
def Frame.inset : Frame → Nat
  | .body _ _ _ => 2
  | .declarators _ _ _ _ => 1
  | .name _ _ => 2
  | .value _ _ => 2

/-- How much further in the hole is than the whole tree. -/
def Context.offset (context : Context) : Nat :=
  (context.map Frame.inset).sum

/-- The lines around the hole are known without the child. -/
theorem Frame.exists_layout_eq (frame : Frame) :
    ∃ before after : List LayoutLine, ∀ child parent, frame.fill? child = some parent →
      parent.layout = before ++ child.layout.map (.below frame.inset) ++ after := by
  cases frame with
  | body info before after =>
    refine ⟨Program.headLayout ⟨info, []⟩ ++ Node.bodyLayout before, Node.bodyLayout after, ?_⟩
    intro child parent hfill
    cases hfill
    simp only [Node.layout, Node.bodyLayout_eq_flatMap, List.flatMap_append, List.flatMap_cons,
      List.append_assoc]
    rfl
  | declarators info keyword before after =>
    refine ⟨Declaration.layout ⟨info, keyword, before⟩,
      after.flatMap fun declarator => declarator.layout.map (.below 1), ?_⟩
    intro child parent hfill
    cases child <;> cases hfill
    simp only [Node.layout, Declaration.layout, List.flatMap_append, List.flatMap_cons,
      List.append_assoc]
    rfl
  | name info init =>
    refine ⟨[⟨0, "[VariableDeclarator]:"⟩, ⟨1, "type: " ++ info.kind.name⟩, ⟨1, "id:"⟩],
      ⟨1, "init:"⟩ :: init.layout.map (.below 2), ?_⟩
    intro child parent hfill
    cases child <;> cases hfill
    rfl
  | value info id =>
    refine ⟨[⟨0, "[VariableDeclarator]:"⟩, ⟨1, "type: " ++ info.kind.name⟩, ⟨1, "id:"⟩] ++
      id.layout.map (.below 2) ++ [⟨1, "init:"⟩], [], ?_⟩
    intro child parent hfill
    cases child <;> cases hfill
    simp only [Node.layout, Declarator.layout, List.append_assoc, List.append_nil]
    rfl

/-- The induction is on the frames from the hole outwards: what is around the inner frames is a part
    of the block for the next one. -/
theorem Context.exists_layout_eq (context : Context) :
    ∃ before after : List LayoutLine, ∀ part whole, context.fill? part = some whole →
      whole.layout = before ++ part.layout.map (.below context.offset) ++ after := by
  induction context with
  | nil =>
    refine ⟨[], [], ?_⟩
    intro part whole hfill
    cases hfill
    simp [offset, LayoutLine.map_below_zero]
  | cons frame context ih =>
    obtain ⟨inBefore, inAfter, hframe⟩ := frame.exists_layout_eq
    obtain ⟨before, after, hcontext⟩ := ih
    refine ⟨before ++ inBefore.map (.below (offset context)),
      inAfter.map (.below (offset context)) ++ after, ?_⟩
    intro part whole hfill
    obtain ⟨parent, hparent, hwhole⟩ := Option.bind_eq_some_iff.mp hfill
    rw [hcontext parent whole hwhole, hframe part parent hparent]
    simp only [List.map_append, LayoutLine.map_below_below, List.append_assoc]
    rfl

/-- A hole is as far in as the child that was taken out. -/
theorem Frame.inset_eq {frame : Frame} {child parent : Node} (hfill : frame.fill? child = some parent) :
    frame.inset = parent.inset := by
  cases frame <;> cases child <;> cases hfill <;> rfl

theorem Node.exists_context_of_mem_placesFrom {above : List Node} {node : Node} {place : Place}
    (hplace : place ∈ node.placesFrom above) :
    ∃ context : Context, context.fill? place.node = some node ∧
      context.offset + (above.map Node.inset).sum = place.offset := by
  induction node using children_induction generalizing above with
  | hstep node ih =>
    rw [placesFrom_eq, List.mem_cons, List.mem_flatMap] at hplace
    obtain rfl | ⟨child, hchild, hplace⟩ := hplace
    · exact ⟨[], rfl, by simp [Context.offset, Place.offset]⟩
    · obtain ⟨frame, hframe⟩ := exists_frame_of_mem_children hchild
      obtain ⟨context, hcontext, hoffset⟩ := ih child hchild hplace
      refine ⟨context ++ [frame], ?_, ?_⟩
      · rw [Context.fill?_append, hcontext, Option.bind_some, Context.fill?, hframe, Option.bind_some]
        rfl
      · rw [List.map_cons, List.sum_cons, ← Frame.inset_eq hframe] at hoffset
        rw [← hoffset, Context.offset, List.map_append, List.sum_append, Context.offset]
        simp [Nat.add_assoc]

section Append

variable {α : Type} [Dumpable α] (indent : Indent) (depth : Depth)

/-- One more node in the body leaves all lines as they were and adds its own at the end. -/
theorem dumpedLines_append_program (p : Program) (child : α) :
    dumpedLines indent depth (p.append (toNode child)) =
      dumpedLines indent depth p ++ dumpedLines indent (depth.below 2) child := by
  have hlayout : (toNode (p.append (toNode child))).layout =
      (toNode p).layout ++ (toNode child).layout.map (.below 2) := by
    change Node.layout (.program p.info (p.body ++ [toNode child])) = Node.layout (.program p.info p.body) ++ _
    simp only [Node.layout, Node.bodyLayout_eq_flatMap, List.flatMap_append, List.flatMap_singleton,
      List.append_assoc]
    rfl
  rw [dumpedLines_eq_map_render, hlayout, List.map_append, map_render_layout_below,
    ← dumpedLines_eq_map_render]

theorem dumpedLines_append_declaration (d : Declaration) (declarator : Declarator) :
    dumpedLines indent depth (d.append declarator) =
      dumpedLines indent depth d ++ dumpedLines indent (depth.below 1) declarator := by
  have hlayout : (toNode (d.append declarator)).layout =
      (toNode d).layout ++ (toNode declarator).layout.map (.below 1) := by
    change Declaration.layout (d.append declarator) = d.layout ++ declarator.layout.map (.below 1)
    simp only [Declaration.layout, Declaration.declarators_append, List.flatMap_append,
      List.flatMap_singleton, List.append_assoc]
    rfl
  rw [dumpedLines_eq_map_render, hlayout, List.map_append, map_render_layout_below,
    ← dumpedLines_eq_map_render]

end Append

/-- The dump of a tree is the dump of any of its nodes, from as far in as the node stands or from the
    largest depth, between lines that are the same whatever node is put in its place. This holds of the
    lines in a list and, since the lines around the node are written without it, of a dump into any
    sink and after any others. A further node in a root comes as a block behind all lines there are,
    and a copy of it as the same block again. -/
theorem dump_shows_parts_as_blocks :
    (∀ context : Context, ∃ before after : List LayoutLine,
      ∀ {α β : Type} [Dumpable α] [Dumpable β] (part : α) (whole : β),
        context.fill? (toNode part) = some (toNode whole) → ∀ depth : Depth,
          (∀ indent : Indent, dumpedLines indent depth whole =
            before.map (·.render indent depth) ++
              dumpedLines indent (depth.below context.offset) part ++
                after.map (·.render indent depth)) ∧
          ∀ {σ : Type} [Sink σ], (Dumpable.writeLines depth whole : DumpM σ Unit) = do
            writeLayout depth before
            Dumpable.writeLines (depth.below context.offset) part
            writeLayout depth after) ∧
    (∀ root : Node, ∀ place ∈ root.places, ∃ context : Context,
      context.fill? place.node = some root ∧ context.offset = place.offset) ∧
    ∀ (indent : Indent) (depth : Depth),
      (∀ (p : Program) {α : Type} [Dumpable α] (child : α),
        let grown := p.append (toNode child)
        let block := dumpedLines indent (depth.below 2) child
        dumpedLines indent depth grown = dumpedLines indent depth p ++ block ∧
          dumpedLines indent depth (grown.append (toNode child)) =
            dumpedLines indent depth p ++ block ++ block) ∧
      ∀ (d : Declaration) (declarator : Declarator),
        let grown := d.append declarator
        let block := dumpedLines indent (depth.below 1) declarator
        dumpedLines indent depth grown = dumpedLines indent depth d ++ block ∧
          dumpedLines indent depth (grown.append declarator) =
            dumpedLines indent depth d ++ block ++ block := by
  refine ⟨?_, ?_, ?_⟩
  · intro context
    obtain ⟨before, after, hlayout⟩ := context.exists_layout_eq
    refine ⟨before, after, ?_⟩
    intro α β _ _ part whole hfill depth
    have hwhole := hlayout (toNode part) (toNode whole) hfill
    constructor
    · intro indent
      rw [dumpedLines_eq_map_render, hwhole, List.map_append, List.map_append,
        map_render_layout_below]
    · intro σ _
      rw [Dumpable.writeLines_eq_writeLayout, Dumpable.writeLines_eq_writeLayout, hwhole,
        List.append_assoc, writeLayout_append, writeLayout_append, writeLayout_below]
  · intro root place hplace
    obtain ⟨context, hfill, hoffset⟩ := Node.exists_context_of_mem_placesFrom hplace
    exact ⟨context, hfill, by simpa using hoffset⟩
  · intro indent depth
    constructor
    · intro p α _ child grown block
      have hgrown : dumpedLines indent depth grown = dumpedLines indent depth p ++ block :=
        dumpedLines_append_program indent depth p child
      exact ⟨hgrown, by rw [dumpedLines_append_program, hgrown]⟩
    · intro d declarator grown block
      have hgrown : dumpedLines indent depth grown = dumpedLines indent depth d ++ block :=
        dumpedLines_append_declaration indent depth d declarator
      exact ⟨hgrown, by rw [dumpedLines_append_declaration, hgrown]⟩

end TreeDump
