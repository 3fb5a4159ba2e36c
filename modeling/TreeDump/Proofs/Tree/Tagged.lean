import TreeDump.Proofs.Tree.Everywhere

namespace TreeDump

namespace Node

/-- The kind that a node has by its contents, whatever kind it stores. -/
def variant : Node → NodeKind
  | .program _ _ => .program
  | .declaration _ => .declaration
  | .declarator _ => .declarator
  | .identifier _ => .identifier
  | .expression _ => .expression
  | .literal _ => .literal

/-- The node and all its descendants store the kind that they have. -/
def Tagged (node : Node) : Prop :=
  ∀ visited ∈ node.preorder, visited.2.kind = visited.2.variant

/-- A node is tagged if it stores its kind and its children are tagged. -/
theorem tagged_iff (node : Node) :
    node.Tagged ↔ node.kind = node.variant ∧ ∀ child ∈ node.children, child.Tagged :=
  everywhere_iff (P := fun visited => visited.kind = visited.variant) node

theorem tagged_program_iff {info : NodeInfo} {body : List Node} :
    (Node.program info body).Tagged ↔ info.kind = .program ∧ ∀ node ∈ body, node.Tagged :=
  tagged_iff _

theorem tagged_declaration_iff {d : Declaration} :
    (Node.declaration d).Tagged ↔
      d.info.kind = .declaration ∧
        ∀ declarator ∈ d.declarators, (Node.declarator declarator).Tagged := by
  rw [tagged_iff]
  exact and_congr_right fun _ => List.forall_mem_map

theorem tagged_identifier_iff {i : Identifier} :
    (Node.identifier i).Tagged ↔ i.info.kind = .identifier := by
  rw [tagged_iff]
  exact and_iff_left fun child hchild => nomatch hchild

theorem tagged_expression_iff {e : Expression} :
    (Node.expression e).Tagged ↔ e.info.kind = .expression := by
  rw [tagged_iff]
  exact and_iff_left fun child hchild => nomatch hchild

theorem tagged_literal_iff {l : Literal} : (Node.literal l).Tagged ↔ l.info.kind = .literal := by
  rw [tagged_iff]
  exact and_iff_left fun child hchild => nomatch hchild

theorem tagged_declarator_iff {d : Declarator} :
    (Node.declarator d).Tagged ↔
      d.info.kind = .declarator ∧ d.id.info.kind = .identifier ∧ d.init.info.kind = .literal := by
  rw [tagged_iff]
  refine and_congr_right fun _ => ?_
  rw [children, List.forall_mem_cons, List.forall_mem_singleton, tagged_identifier_iff,
    tagged_literal_iff]

end Node

section Constructors

theorem Identifier.tagged_named (name : String) : (Node.identifier (named name)).Tagged :=
  Node.tagged_identifier_iff.mpr rfl

theorem Literal.tagged_holding (value : Scalar) : (Node.literal (holding value)).Tagged :=
  Node.tagged_literal_iff.mpr rfl

theorem Expression.tagged_unspecified : (Node.expression unspecified).Tagged :=
  Node.tagged_expression_iff.mpr rfl

theorem Declarator.tagged_binding {id : Identifier} {init : Literal}
    (hid : (Node.identifier id).Tagged) (hinit : (Node.literal init).Tagged) :
    (Node.declarator (binding id init)).Tagged :=
  Node.tagged_declarator_iff.mpr
    ⟨rfl, Node.tagged_identifier_iff.mp hid, Node.tagged_literal_iff.mp hinit⟩

theorem Declaration.tagged_empty (keyword : Keyword) : (Node.declaration (empty keyword)).Tagged :=
  Node.tagged_declaration_iff.mpr ⟨rfl, fun _ hdeclarator => nomatch hdeclarator⟩

theorem Declaration.tagged_append {d : Declaration} {declarator : Declarator}
    (hd : (Node.declaration d).Tagged) (hdeclarator : (Node.declarator declarator).Tagged) :
    (Node.declaration (d.append declarator)).Tagged := by
  obtain ⟨hkind, hdeclarators⟩ := Node.tagged_declaration_iff.mp hd
  refine Node.tagged_declaration_iff.mpr ⟨hkind, ?_⟩
  rw [declarators_append, List.forall_mem_append, List.forall_mem_singleton]
  exact ⟨hdeclarators, hdeclarator⟩

theorem Program.tagged_empty : (toNode empty).Tagged :=
  Node.tagged_program_iff.mpr ⟨rfl, fun _ hnode => nomatch hnode⟩

theorem Program.tagged_append {p : Program} {node : Node} (hp : (toNode p).Tagged)
    (hnode : node.Tagged) : (toNode (p.append node)).Tagged := by
  obtain ⟨hkind, hbody⟩ := Node.tagged_program_iff.mp hp
  refine Node.tagged_program_iff.mpr ⟨hkind, ?_⟩
  rw [body_append, List.forall_mem_append, List.forall_mem_singleton]
  exact ⟨hbody, hnode⟩

end Constructors

namespace Node

/-- The node with other information of the same kind of contents. -/
def withInfo (info : NodeInfo) : Node → Node
  | .program _ body => .program info body
  | .declaration d => .declaration { d with info }
  | .declarator d => .declarator { d with info }
  | .identifier i => .identifier { i with info }
  | .expression e => .expression { e with info }
  | .literal l => .literal { l with info }

/-- A new span is a matter of the node's own information, whatever the variant. -/
theorem withSpan_eq_map_withInfo (start stop : UInt32) (node : Node) :
    node.withSpan start stop =
      (node.info.withSpan start stop).map fun info => node.withInfo info := by
  cases hinfo : node.info.withSpan start stop <;> cases node <;>
    simp only [info] at hinfo <;>
    simp only [withSpan, Program.withSpan, Declaration.withSpan, Declarator.withSpan,
      Identifier.withSpan, Expression.withSpan, Literal.withSpan, hinfo] <;> rfl

/-- A new span leaves the stored kinds as they were. -/
theorem tagged_of_withSpan {start stop : UInt32} {node spanned : Node}
    (hspan : node.withSpan start stop = .ok spanned) (hnode : node.Tagged) : spanned.Tagged := by
  rw [withSpan_eq_map_withInfo, NodeInfo.withSpan] at hspan
  cases hbetween : Span.between? start stop with
  | error fault =>
    rw [hbetween] at hspan
    cases hspan
  | ok span =>
    rw [hbetween] at hspan
    cases hspan
    obtain ⟨hkind, hchildren⟩ := (tagged_iff node).mp hnode
    cases node <;> exact (tagged_iff _).mpr ⟨hkind, hchildren⟩

end Node

end TreeDump
