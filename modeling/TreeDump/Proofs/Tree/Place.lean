import Mathlib.Data.List.Chain
import TreeDump.Proofs.Tree.Tagged

namespace TreeDump

/-- A node of a tree with its proper ancestors, the nearest first. -/
structure Place where
  node : Node
  above : List Node

namespace Node

/-- The pre-order walk of a node that stands in the given ones. -/
def placesFrom (above : List Node) (node : Node) : List Place :=
  ⟨node, above⟩ :: node.children.attach.flatMap fun child => placesFrom (node :: above) child.val
termination_by sizeOf node
decreasing_by exact sizeOf_lt_of_mem_children child.property

theorem placesFrom_eq (above : List Node) (node : Node) :
    node.placesFrom above =
      ⟨node, above⟩ :: node.children.flatMap (placesFrom (node :: above)) := by
  rw [placesFrom]
  simp

/-- All places of a tree, with nothing above its root. -/
def places (node : Node) : List Place :=
  node.placesFrom []

/-- The nodes of the places are met in pre-order, as deep as there are nodes above them. -/
theorem map_placesFrom (above : List Node) (node : Node) :
    (node.placesFrom above).map (fun place => (place.above.length, place.node)) =
      node.preorderFrom above.length := by
  induction node using children_induction generalizing above with
  | hstep node ih =>
    rw [placesFrom_eq, preorderFrom_eq, List.map_cons, List.map_flatMap]
    congr 1
    refine List.flatMap_congr fun child hchild => ?_
    exact ih child hchild (node :: above)

theorem map_places (node : Node) :
    node.places.map (fun place => (place.above.length, place.node)) = node.preorder :=
  map_placesFrom [] node

theorem map_node_places (node : Node) :
    node.places.map (·.node) = node.preorder.map (·.2) := by
  rw [← map_places, List.map_map]
  rfl

/-- The nodes above a place begin with those above the node that the walk started from. -/
theorem suffix_above_of_mem_placesFrom {above : List Node} {node : Node} {place : Place}
    (hplace : place ∈ node.placesFrom above) : above <:+ place.above := by
  induction node using children_induction generalizing above with
  | hstep node ih =>
    rw [placesFrom_eq, List.mem_cons, List.mem_flatMap] at hplace
    obtain rfl | ⟨child, hchild, hplace⟩ := hplace
    · exact List.suffix_refl above
    · exact (List.suffix_cons node above).trans (ih child hchild hplace)

/-- Each node is a child of the nearest one above it. -/
theorem isChain_of_mem_placesFrom {above : List Node} {node : Node} {place : Place}
    (habove : List.IsChain (fun child parent => child ∈ parent.children) (node :: above))
    (hplace : place ∈ node.placesFrom above) :
    List.IsChain (fun child parent => child ∈ parent.children) (place.node :: place.above) := by
  induction node using children_induction generalizing above with
  | hstep node ih =>
    rw [placesFrom_eq, List.mem_cons, List.mem_flatMap] at hplace
    obtain rfl | ⟨child, hchild, hplace⟩ := hplace
    · exact habove
    · exact ih child hchild (.cons_cons hchild habove) hplace

/-- Which nodes can stand directly in which. -/
theorem variant_of_mem_children {child parent : Node} (hchild : child ∈ parent.children) :
    parent.variant = .program ∨
      parent.variant = .declaration ∧ child.variant = .declarator ∨
      parent.variant = .declarator ∧ (child.variant = .identifier ∨ child.variant = .literal) := by
  cases parent with
  | program info body => exact .inl rfl
  | declaration d =>
    obtain ⟨declarator, _, rfl⟩ := List.mem_map.mp hchild
    exact .inr (.inl ⟨rfl, rfl⟩)
  | declarator d =>
    simp only [children, List.mem_cons, List.not_mem_nil, or_false] at hchild
    obtain rfl | rfl := hchild
    · exact .inr (.inr ⟨rfl, .inl rfl⟩)
    · exact .inr (.inr ⟨rfl, .inr rfl⟩)
  | identifier i => cases hchild
  | expression e => cases hchild
  | literal l => cases hchild

end Node

namespace Place

variable {root : Node} {place : Place}

theorem isChain_of_mem_places (hplace : place ∈ root.places) :
    List.IsChain (fun child parent => child ∈ parent.children) (place.node :: place.above) :=
  Node.isChain_of_mem_placesFrom (.singleton root) hplace

/-- Whatever stands above a node has children: the node, or another on the way to it. -/
theorem exists_mem_children_of_mem_above (hplace : place ∈ root.places) :
    ∀ ancestor ∈ place.above, ∃ child, child ∈ ancestor.children := by
  have hchain := isChain_of_mem_places hplace
  generalize place.above = above at hchain
  generalize place.node = node at hchain
  induction above generalizing node with
  | nil => exact fun _ hancestor => nomatch hancestor
  | cons parent above ih =>
    obtain ⟨hchild, htail⟩ := List.isChain_cons_cons.mp hchain
    exact List.forall_mem_cons.mpr ⟨⟨node, hchild⟩, ih parent htail⟩

/-- A program stands in nothing but programs. -/
theorem variant_of_mem_above (hplace : place ∈ root.places) {parent : Node}
    (hparent : place.above.head? = some parent) (hprogram : parent.variant = .program) :
    ∀ ancestor ∈ place.above, ancestor.variant = .program := by
  obtain ⟨above, habove⟩ := List.head?_eq_some_iff.mp hparent
  have hchain := isChain_of_mem_places hplace
  rw [habove] at hchain ⊢
  refine List.forall_mem_cons.mpr ⟨hprogram, ?_⟩
  refine (List.isChain_cons_cons.mp hchain).2.cons_induction (·.variant = .program) above ?_ hprogram
  intro child ancestor hchild hvariant
  obtain hancestor | ⟨_, hother⟩ | ⟨_, hother | hother⟩ := Node.variant_of_mem_children hchild
  · exact hancestor
  all_goals
    rw [hvariant] at hother
    cases hother

end Place

end TreeDump
