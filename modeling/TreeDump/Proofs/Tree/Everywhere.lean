import TreeDump.Tree.Children

namespace TreeDump.Node

variable {P : Node → Prop}

/-- The node and all its descendants have the property. -/
def Everywhere (P : Node → Prop) (node : Node) : Prop :=
  ∀ visited ∈ node.preorder, P visited.2

/-- The depth that a walk begins with makes no difference to the nodes it meets. -/
theorem everywhere_preorderFrom_iff (depth : Nat) (node : Node) :
    (∀ visited ∈ node.preorderFrom depth, P visited.2) ↔ node.Everywhere P := by
  induction node using children_induction generalizing depth with
  | hstep node ih =>
    have hchildren (level : Nat) :
        (∀ visited ∈ node.children.flatMap (preorderFrom level), P visited.2) ↔
          ∀ child ∈ node.children, child.Everywhere P := by
      simp only [List.mem_flatMap, forall_exists_index, and_imp]
      constructor
      · intro hall child hchild
        exact (ih child hchild level).mp fun visited hvisited => hall visited child hchild hvisited
      · intro hall visited child hchild hvisited
        exact (ih child hchild level).mpr (hall child hchild) visited hvisited
    rw [Everywhere, preorder, preorderFrom_eq, preorderFrom_eq]
    simp only [List.forall_mem_cons, hchildren]

theorem everywhere_iff (node : Node) :
    node.Everywhere P ↔ P node ∧ ∀ child ∈ node.children, child.Everywhere P := by
  rw [Everywhere, preorder, preorderFrom_eq, List.forall_mem_cons]
  refine and_congr_right fun _ => ?_
  simp only [List.mem_flatMap, forall_exists_index, and_imp]
  constructor
  · intro hall child hchild
    exact (everywhere_preorderFrom_iff 1 child).mp fun visited hvisited =>
      hall visited child hchild hvisited
  · intro hall visited child hchild hvisited
    exact (everywhere_preorderFrom_iff 1 child).mpr (hall child hchild) visited hvisited

end TreeDump.Node
