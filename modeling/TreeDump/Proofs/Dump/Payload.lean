import TreeDump.Proofs.Dump.Walk
import TreeDump.Proofs.Tree.Record

namespace TreeDump

/-- The text is that of a line with a name or a value. -/
def showsPayload (text : String) : Bool :=
  beginsWith "name: " text || beginsWith "value: " text

namespace Node

/-- The line that a leaf has for what it holds. Expressions hold nothing. -/
def payload : Node → List String
  | .program _ _ => []
  | .declaration _ => []
  | .declarator _ => []
  | .identifier i => ["name: " ++ i.name]
  | .expression _ => []
  | .literal l => ["value: " ++ l.value.text]

theorem payload_eq_nil_of_not_isLeaf {node : Node} (hnode : node.variant.isLeaf = false) :
    node.payload = [] := by
  cases node with
  | program info body => rfl
  | declaration d => rfl
  | declarator d => rfl
  | identifier i => cases hnode
  | expression e => rfl
  | literal l => cases hnode

/-- No other label passes for one of a name or of a value, whatever stands behind it. -/
theorem texts_picked_payload_ownLines (node : Node) :
    (picked showsPayload node.ownLines).map (·.text) = node.payload := by
  cases node <;>
    simp [ownLines, payload, picked, showsPayload, beginsWith, headerText, Program.headLayout,
      Identifier.layout, Literal.layout, Expression.layout, NodeLike.label]

theorem texts_picked_keyword_ownLines (node : Node) :
    (picked (beginsWith "kind: ") node.ownLines).map (·.text) =
      (node.declaration?.map fun d => "kind: " ++ d.keyword.text).toList := by
  cases node <;>
    simp [ownLines, declaration?, picked, beginsWith, headerText, Program.headLayout,
      Identifier.layout, Literal.layout, Expression.layout, NodeLike.label]

/-- All that a walk shows of names and values comes from its leaves. -/
theorem flatMap_payload_filter_isLeaf (nodes : List Node) :
    (nodes.filter (·.variant.isLeaf)).flatMap payload = nodes.flatMap payload := by
  induction nodes with
  | nil => rfl
  | cons node nodes ih =>
    cases hleaf : node.variant.isLeaf with
    | true =>
      rw [List.filter_cons_of_pos (by simpa using hleaf), List.flatMap_cons, List.flatMap_cons, ih]
    | false =>
      have hnone : node.payload = [] := payload_eq_nil_of_not_isLeaf hleaf
      rw [List.filter_cons_of_neg (by simpa using hleaf), List.flatMap_cons, hnone, List.nil_append,
        ih]

end Node

/-- Right behind every declarator of the list come its name and its initial value. -/
def FieldsFollow (nodes : List Node) : Prop :=
  ∀ before d after, nodes = before ++ .declarator d :: after →
    ∃ rest, after = .identifier d.id :: .literal d.init :: rest

namespace FieldsFollow

theorem nil : FieldsFollow [] := by
  intro before d after hnodes
  cases before <;> cases hnodes

/-- A node other than a declarator makes no demands on what follows it. -/
theorem cons {node : Node} {nodes : List Node} (hnode : node.variant ≠ .declarator)
    (hnodes : FieldsFollow nodes) : FieldsFollow (node :: nodes) := by
  intro before d after hsplit
  cases before with
  | nil =>
    obtain ⟨rfl, _⟩ := List.cons.inj hsplit
    exact absurd rfl hnode
  | cons first before => exact hnodes before d after (List.cons.inj hsplit).2

theorem append {first second : List Node} (hfirst : FieldsFollow first)
    (hsecond : FieldsFollow second) : FieldsFollow (first ++ second) := by
  intro before d after hsplit
  obtain ⟨middle, hbefore, hmiddle⟩ | ⟨middle, hbefore, hmiddle⟩ := List.append_eq_append_iff.mp hsplit
  · exact hsecond middle d after hmiddle
  · cases middle with
    | nil => exact hsecond [] d after hmiddle.symm
    | cons node middle =>
      obtain ⟨rfl, rfl⟩ := List.cons.inj hmiddle
      obtain ⟨rest, hrest⟩ := hfirst before d middle hbefore
      exact ⟨rest ++ second, by rw [hrest]; rfl⟩

theorem flatMap {α : Type} {block : α → List Node} {blocks : List α}
    (hblocks : ∀ a ∈ blocks, FieldsFollow (block a)) : FieldsFollow (blocks.flatMap block) := by
  induction blocks with
  | nil => exact nil
  | cons a blocks ih =>
    obtain ⟨hfirst, hrest⟩ := List.forall_mem_cons.mp hblocks
    rw [List.flatMap_cons]
    exact append hfirst (ih hrest)

theorem preorderFrom (depth : Nat) (node : Node) :
    FieldsFollow ((node.preorderFrom depth).map (·.2)) := by
  induction node using Node.children_induction generalizing depth with
  | hstep node ih =>
    have hbelow : FieldsFollow
        (node.children.flatMap fun child => (child.preorderFrom (depth + 1)).map (·.2)) :=
      flatMap fun child hchild => ih child hchild (depth + 1)
    rw [Node.preorderFrom_eq, List.map_cons, List.map_flatMap]
    cases node with
    | program info body => exact cons (by simp [Node.variant]) hbelow
    | declaration d => exact cons (by simp [Node.variant]) hbelow
    | declarator d =>
      intro before d' after hsplit
      cases before with
      | nil =>
        obtain ⟨hd, hafter⟩ := List.cons.inj hsplit
        cases hd
        refine ⟨[], ?_⟩
        rw [← hafter]
        simp [Node.children, Node.preorderFrom_eq]
      | cons first before => exact hbelow before d' after (List.cons.inj hsplit).2
    | identifier i => exact cons (by simp [Node.variant]) hbelow
    | expression e => exact cons (by simp [Node.variant]) hbelow
    | literal l => exact cons (by simp [Node.variant]) hbelow

end FieldsFollow

/-- Without their indentation, the lines of a dump that begin with `name: ` or `value: ` are those of
    the leaves that a visitor with hooks for leaves alone comes to, in its order, and these are all
    leaves of the tree. The lines that begin with `kind: ` have the keywords of the declarations in
    pre-order. For each declarator of the walk there are the lines of its name and of its value, one
    right behind the other. Names and strings may look like any line of a dump. -/
theorem dump_shows_leaves {α : Type} [Dumpable α] [Visitable α] {width : Nat} {indent : Indent}
    (hwidth : Indent.ofWidth width = .ok indent) (depth : Depth) (node : α) :
    let stripped := (dumpedLines indent depth node).map stripBlanks
    let walk := (toNode node).preorder.map (·.2)
    let leaves := ((visit (Visitor.recorder NodeKind.isLeaf) node).run []).2
    stripped.filter showsPayload = leaves.flatMap Node.payload ∧
      leaves = walk.filter (·.variant.isLeaf) ∧
      stripped.filter (beginsWith "kind: ") =
        (walk.filterMap Node.declaration?).map (fun d => "kind: " ++ d.keyword.text) ∧
      ∀ before d after, walk = before ++ .declarator d :: after →
        ∃ rest, after = .identifier d.id :: .literal d.init :: rest ∧
          stripped.filter showsPayload =
            before.flatMap Node.payload ++ ["name: " ++ d.id.name, "value: " ++ d.init.value.text] ++
              rest.flatMap Node.payload := by
  intro stripped walk leaves
  have hleaves : leaves = walk.filter (·.variant.isLeaf) := by
    have hrun : (visit (Visitor.recorder NodeKind.isLeaf) node).run [] =
        ((), [] ++ (toNode node).outermost NodeKind.isLeaf) := by
      rw [← Visitable.visitNode_toNode]
      exact Visitor.run_visitNode_recorder NodeKind.isLeaf (toNode node) []
    rw [← Node.outermost_isLeaf]
    exact congrArg Prod.snd hrun
  have hpayload : stripped.filter showsPayload = walk.flatMap Node.payload := by
    rw [filter_map_stripBlanks_dumpedLines hwidth, Node.texts_picked_layout (by decide)]
    exact List.flatMap_congr fun visited _ => visited.texts_picked_payload_ownLines
  refine ⟨?_, hleaves, ?_, ?_⟩
  · rw [hpayload, hleaves, Node.flatMap_payload_filter_isLeaf]
  · rw [filter_map_stripBlanks_dumpedLines hwidth, Node.texts_picked_layout (by decide),
      List.map_filterMap, List.filterMap_eq_flatMap_toList]
    exact List.flatMap_congr fun visited _ => visited.texts_picked_keyword_ownLines
  · intro before d after hsplit
    obtain ⟨rest, rfl⟩ := FieldsFollow.preorderFrom 0 (toNode node) before d after hsplit
    refine ⟨rest, rfl, ?_⟩
    rw [hpayload, hsplit]
    simp [Node.payload]

/-- A name that looks like a value and a string that looks like a name stay what they are, even without
    any indentation, and a declarator without an initial value has a value line too. -/
theorem dump_shows_leaves_despite_names :
    let unset : Declarator := .uninitialized (.named "value: 1")
    let inner : Program := Program.empty.append (.literal (.holding (.string " name: x")))
    let tree : Node :=
      toNode ((Program.empty.append (.declaration ((Declaration.empty .constWord).append unset))).append
        (toNode inner))
    let stripped := (dumpedLines ⟨""⟩ (Depth.zero.below 7) tree).map stripBlanks
    Indent.ofWidth 0 = .ok ⟨""⟩ ∧
      stripped.filter showsPayload = ["name: value: 1", "value: undefined", "value:  name: x"] ∧
      stripped.filter (beginsWith "kind: ") = ["kind: const"] ∧
      ∃ before rest : List Node, stripped.filter showsPayload =
        before.flatMap Node.payload ++ ["name: value: 1", "value: undefined"] ++
          rest.flatMap Node.payload := by
  intro unset inner tree stripped
  have hwidth : Indent.ofWidth 0 = .ok ⟨""⟩ := by rfl
  have hwalk : tree.preorder.map (·.2) =
      [tree, .declaration ((Declaration.empty .constWord).append unset)] ++
        .declarator unset ::
          [.identifier unset.id, .literal unset.init, toNode inner,
            .literal (.holding (.string " name: x"))] := by
    simp [tree, inner, Node.preorder, Node.preorderFrom_eq, Node.children, toNode, Program.empty,
      Program.append, Declaration.empty, Declaration.append]
  obtain ⟨hpayload, hleaves, hkeywords, hdeclarators⟩ :=
    dump_shows_leaves hwidth (Depth.zero.below 7) tree
  change _ = (tree.preorder.map (·.2)).filter _ at hleaves
  obtain ⟨rest, _, hfields⟩ := hdeclarators _ unset _ hwalk
  refine ⟨hwidth, ?_, ?_, _, rest, hfields⟩
  · rw [hpayload, hleaves, hwalk]
    rfl
  · refine hkeywords.trans ?_
    change ((tree.preorder.map (·.2)).filterMap _).map _ = _
    rw [hwalk]
    rfl

end TreeDump
