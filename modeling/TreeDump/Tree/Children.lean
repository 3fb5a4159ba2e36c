import TreeDump.Tree.Node

namespace TreeDump.Node

/-- The direct children, first to last. A declarator has its name and its initial value for children. -/
def children : Node → List Node
  | .program _ body => body
  | .declaration d => d.declarators.map .declarator
  | .declarator d => [.identifier d.id, .literal d.init]
  | .identifier _ => []
  | .expression _ => []
  | .literal _ => []

theorem sizeOf_lt_of_mem_children {child node : Node} (hmem : child ∈ node.children) :
    sizeOf child < sizeOf node := by
  cases node with
  | program info body =>
    have hlt : sizeOf child < sizeOf body := List.sizeOf_lt_of_mem hmem
    simp only [Node.program.sizeOf_spec]
    omega
  | declaration d =>
    obtain ⟨declarator, hdeclarator, rfl⟩ := List.mem_map.mp hmem
    have hlt := List.sizeOf_lt_of_mem hdeclarator
    have hfields := Declaration.mk.sizeOf_spec d.info d.keyword d.declarators
    simp only [Node.declarator.sizeOf_spec, Node.declaration.sizeOf_spec]
    change sizeOf d = _ at hfields
    omega
  | declarator d =>
    have hfields := Declarator.mk.sizeOf_spec d.info d.id d.init
    change sizeOf d = _ at hfields
    simp only [children, List.mem_cons, List.not_mem_nil, or_false] at hmem
    cases hmem with
    | inl hid =>
      subst hid
      simp only [Node.identifier.sizeOf_spec, Node.declarator.sizeOf_spec]
      omega
    | inr hinit =>
      subst hinit
      simp only [Node.literal.sizeOf_spec, Node.declarator.sizeOf_spec]
      omega
  | identifier i => cases hmem
  | expression e => cases hmem
  | literal l => cases hmem

/-- A statement about all nodes follows if it passes from the children of a node to the node. -/
theorem children_induction {P : Node → Prop}
    (hstep : ∀ node, (∀ child ∈ node.children, P child) → P node) (node : Node) : P node :=
  hstep node fun child hmem =>
    have := sizeOf_lt_of_mem_children hmem
    children_induction hstep child
termination_by sizeOf node

/-- The node and all its descendants, parents before children and siblings in order, each with its
    depth. -/
def preorderFrom (depth : Nat) (node : Node) : List (Nat × Node) :=
  (depth, node) :: node.children.attach.flatMap fun child => preorderFrom (depth + 1) child.val
termination_by sizeOf node
decreasing_by exact sizeOf_lt_of_mem_children child.property

theorem preorderFrom_eq (depth : Nat) (node : Node) :
    node.preorderFrom depth =
      (depth, node) :: node.children.flatMap (preorderFrom (depth + 1)) := by
  rw [preorderFrom]
  simp

/-- The pre-order walk, with the node itself at depth zero. -/
def preorder (node : Node) : List (Nat × Node) :=
  node.preorderFrom 0

end TreeDump.Node
