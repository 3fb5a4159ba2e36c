import TreeDump.Proofs.Dump.Walk
import TreeDump.Proofs.Tree.Recipe

namespace TreeDump

namespace Node

/-- A node that stores its own kind, is labelled with the name of that kind and has no span or one that
    can be measured. -/
structure WellFormed (node : Node) : Prop where
  kind_eq : node.kind = node.variant
  label_eq : node.label = node.kind.name
  span_measured : ∀ span, node.span = some span → span.start ≤ span.stop ∧
    ∃ length, span.length = .ok length ∧ span.start.toNat + length.toNat = span.stop.toNat ∧
      (span.isEmpty = true ↔ length = 0)

theorem Sound.wellFormed {node : Node} (hnode : node.Sound) :
    ∀ visited ∈ node.preorder, visited.2.WellFormed := by
  intro visited hvisited
  have hproper := hnode visited hvisited
  have hkind : visited.2.kind = visited.2.variant := hproper.kind_eq
  refine ⟨hkind, ?_, ?_⟩
  · rw [hkind, label_eq_name_variant]
  · intro span hspan
    have hordered : span.Ordered := hproper.ordered span hspan
    exact ⟨hordered, span.exists_length_of_ordered hordered⟩

theorem texts_picked_header_layout (node : Node) :
    (picked (beginsWith "[") node.layout).map (·.text) =
      node.preorder.map fun visited => "[" ++ visited.2.variant.name ++ "]:" := by
  have htext (visited : Node) : headerText visited = "[" ++ visited.variant.name ++ "]:" := by
    rw [← label_eq_name_variant]
    rfl
  rw [picked_header_layout, List.map_map, ← map_places, List.map_map]
  exact List.map_congr_left fun place _ => htext place.node

end Node

/-- A recipe can be carried out exactly if it gives no node a reversed span, and otherwise comes to that
    fault. The node that it makes is the same in its own type and among other nodes, and it and all
    below it are well-formed, in whatever order spans and children were given to them. In its dumps the
    headers and the lines of the kinds therefore name the same nodes alike, one for one. -/
theorem Recipe.eval_makes_wellFormed {kind : NodeKind} (recipe : Recipe kind) :
    (recipe.Ordered → ∃ node, recipe.eval = .ok node) ∧
      (¬ recipe.Ordered → recipe.eval = .error .reversedSpan) ∧
      ∀ node, recipe.eval = .ok node →
        ((toNode node).kind = NodeLike.kind node ∧ (toNode node).label = NodeLike.label node ∧
          (toNode node).span = NodeLike.span node) ∧
        (∀ visited ∈ (toNode node).preorder, visited.2.WellFormed) ∧
        ∀ (indent : Indent) (depth : Depth),
          let layout := (toNode node).layout
          let names := (toNode node).preorder.map fun visited => visited.2.variant.name
          dumpedLines indent depth node = layout.map (·.render indent depth) ∧
            (picked (beginsWith "[") layout).map (·.text) =
              names.map (fun name => "[" ++ name ++ "]:") ∧
            (picked (beginsWith "type: ") layout).map (·.text) = names.map ("type: " ++ ·) := by
  have hyields := recipe.yields_eval
  cases heval : recipe.eval with
  | error fault =>
    rw [heval] at hyields
    obtain ⟨hnot, rfl⟩ := hyields
    refine ⟨fun hordered => absurd hordered hnot, fun _ => rfl, ?_⟩
    intro node hnode
    cases hnode
  | ok made =>
    rw [heval] at hyields
    obtain ⟨hordered, hsound⟩ := hyields
    refine ⟨fun _ => ⟨made, rfl⟩, fun hnot => absurd hordered hnot, ?_⟩
    intro node hnode
    obtain rfl : made = node := Except.ok.inj hnode
    have hinfo := NodeKind.info_toNode made
    refine ⟨⟨congrArg NodeInfo.kind hinfo, NodeKind.label_toNode made, congrArg NodeInfo.span hinfo⟩,
      hsound.wellFormed, ?_⟩
    intro indent depth layout names
    refine ⟨dumpedLines_eq_map_render indent depth made, ?_, ?_⟩
    · rw [Node.texts_picked_header_layout, List.map_map]
      rfl
    · rw [Node.texts_picked_kind_layout hsound.tagged, List.map_map]
      apply List.map_congr_left
      intro visited hvisited
      have hkind : visited.2.kind = visited.2.variant := hsound.tagged visited hvisited
      rw [hkind]
      rfl

/-- Spans may be given early or late, again, or empty; only one that is reversed is a fault, which leaves
    nothing of the program around it. -/
theorem Recipe.eval_makes_wellFormed_respanned :
    let declaration : Recipe .declaration :=
      .withSpan 4 4 (.appendDeclarator (.withSpan 0 20 (.emptyDeclaration .letWord))
        (.uninitialized (.withSpan 4 9 (.named "x"))))
    let spanned : Recipe .program := .withSpan 0 30 (.addingNode (.copy .emptyProgram) declaration)
    let reversed : Recipe .program := .appendNode .defaultProgram (.withSpan 9 4 (.named "x"))
    spanned.Ordered ∧ ¬ reversed.Ordered ∧ reversed.eval = .error .reversedSpan ∧
      ∃ node : Program, spanned.eval = .ok node ∧
        (toNode node).WellFormed ∧ (toNode node).span = some ⟨0, 30⟩ ∧
        (picked (beginsWith "type: ") (toNode node).layout).map (·.text) =
          ["type: Program", "type: VariableDeclaration", "type: VariableDeclarator",
            "type: Identifier", "type: Literal"] := by
  intro declaration spanned reversed
  have hordered : spanned.Ordered := by simp [spanned, declaration, Recipe.Ordered]
  have hreversed : ¬ reversed.Ordered := by simp [reversed, Recipe.Ordered]
  obtain ⟨hmakes, _, hnodes⟩ := eval_makes_wellFormed spanned
  obtain ⟨node, heval⟩ := hmakes hordered
  obtain ⟨_, hwellFormed, hdumps⟩ := hnodes node heval
  obtain ⟨_, _, hkinds⟩ := hdumps .standard .zero
  have hroot : (0, toNode node) ∈ (toNode node).preorder := by
    rw [Node.preorder, Node.preorderFrom_eq]
    exact List.mem_cons_self
  refine ⟨hordered, hreversed, (eval_makes_wellFormed reversed).2.1 hreversed, node, heval,
    hwellFormed _ hroot, ?_, ?_⟩
  · cases heval
    rfl
  · rw [hkinds]
    cases heval
    simp [Node.preorder, Node.preorderFrom_eq, Node.children, Node.variant, NodeKind.name, toNode,
      Program.adding, Program.append, Program.empty, Declaration.append, Declaration.empty]

end TreeDump
