import Mathlib.Algebra.GroupWithZero.Nat
import TreeDump.Proofs.Tree.Place
import TreeDump.Tree.Visitor

namespace TreeDump

namespace Visitor

variable {σ : Type}

/-- What a visitor does at a node before it comes to anything below. There is nothing below a leaf, so
    leaves count as gone over. -/
def hook (v : Visitor σ) : Node → StateM σ Step
  | .program info body => v.program ⟨info, body⟩
  | .declaration d => v.declaration d
  | .declarator d => v.declarator d
  | .identifier i => do v.identifier i; pure .over
  | .expression e => do v.expression e; pure .over
  | .literal l => do v.literal l; pure .over

theorem visitNodes_eq_forM (v : Visitor σ) (nodes : List Node) :
    v.visitNodes nodes = nodes.forM v.visitNode := by
  induction nodes with
  | nil => rfl
  | cons node nodes ih => rw [visitNodes, ih]; rfl

theorem visitDeclarators_eq_forM (v : Visitor σ) (ds : List Declarator) :
    v.visitDeclarators ds = (ds.map .declarator).forM v.visitNode := by
  induction ds with
  | nil => rfl
  | cons d ds ih => rw [visitDeclarators, ih]; rfl

/-- Declarators, names and values are visited alike in whatever node they stand. -/
theorem visitNode_eq (v : Visitor σ) (node : Node) :
    v.visitNode node = v.hook node >>= fun
      | .into => node.children.forM v.visitNode
      | .over => pure () := by
  cases node with
  | program info body =>
    refine bind_congr fun
      | .into => ?_
      | .over => rfl
    exact v.visitNodes_eq_forM body
  | declaration d =>
    refine bind_congr fun
      | .into => ?_
      | .over => rfl
    exact v.visitDeclarators_eq_forM d.declarators
  | declarator d =>
    exact bind_congr fun
      | .into => rfl
      | .over => rfl
  | identifier i => rfl
  | expression e => rfl
  | literal l => rfl

variable {v : Visitor σ} (act : σ → List Place → σ)

/-- Visits of siblings follow each other, so what each does to the state adds up. -/
theorem run_forM_visitNode (hnil : ∀ state, act state [] = state)
    (happend : ∀ state first second, act state (first ++ second) = act (act state first) second)
    {above nodes : List Node}
    (hnodes : ∀ node ∈ nodes, ∀ state,
      (v.visitNode node).run state = ((), act state (node.placesFrom above)))
    (state : σ) :
    (nodes.forM v.visitNode).run state = ((), act state (nodes.flatMap (Node.placesFrom above))) := by
  induction nodes generalizing state with
  | nil => rw [List.flatMap_nil, hnil]; rfl
  | cons node nodes ih =>
    rw [List.flatMap_cons, happend, ← ih fun sibling hsibling =>
      hnodes sibling (List.mem_cons_of_mem node hsibling)]
    change (v.visitNode node >>= fun _ => nodes.forM v.visitNode).run state = _
    rw [StateT.run_bind, hnodes node List.mem_cons_self]
    rfl

/-- What a visit does is known from what the hook does at one node: it acts on the place it is at and
    goes on, or it acts on all places from there on and goes over them. `Reached` holds of the nodes
    that the visit has gone into. -/
theorem run_visitNode (Reached : List Node → Prop) (hnil : ∀ state, act state [] = state)
    (happend : ∀ state first second, act state (first ++ second) = act (act state first) second)
    (hhook : ∀ node above state, Reached above →
      (v.hook node).run state = (.into, act state [⟨node, above⟩]) ∧ Reached (node :: above) ∨
        (v.hook node).run state = (.over, act state (node.placesFrom above)))
    {above : List Node} (hreached : Reached above) (node : Node) (state : σ) :
    (v.visitNode node).run state = ((), act state (node.placesFrom above)) := by
  induction node using Node.children_induction generalizing above state with
  | hstep node ih =>
    rw [visitNode_eq]
    obtain ⟨hinto, hbelow⟩ | hover := hhook node above state hreached
    · have hsplit : act state (node.placesFrom above) =
          act (act state [⟨node, above⟩]) (node.children.flatMap (Node.placesFrom (node :: above))) := by
        rw [Node.placesFrom_eq, ← List.singleton_append, happend]
      rw [StateT.run_bind, hinto, hsplit]
      exact run_forM_visitNode act hnil happend
        (fun child hchild state => ih child hchild hbelow state) (act state [⟨node, above⟩])
    · rw [StateT.run_bind, hover]
      rfl

theorem run_visitNode_counter (node : Node) (count : Nat) :
    (counter.visitNode node).run count = ((), count + node.preorder.length) := by
  have hlength : node.preorder.length = node.places.length := by
    rw [← Node.map_places, List.length_map]
  rw [hlength]
  refine run_visitNode (fun count places => count + places.length) (fun _ => True)
    (fun _ => rfl) ?_ ?_ trivial node count
  · intro count first second
    rw [List.length_append, Nat.add_assoc]
  · intro node above count _
    cases node with
    | program info body => exact .inl ⟨rfl, trivial⟩
    | declaration d => exact .inl ⟨rfl, trivial⟩
    | declarator d => exact .inl ⟨rfl, trivial⟩
    | identifier i => right; rw [Node.placesFrom_eq]; rfl
    | expression e => right; rw [Node.placesFrom_eq]; rfl
    | literal l => right; rw [Node.placesFrom_eq]; rfl

end Visitor

namespace Node

/-- The counter counts the nodes of the walk. -/
theorem count_eq_length_preorder (node : Node) : node.count = node.preorder.length := by
  rw [count, Visitor.run_visitNode_counter, Nat.zero_add]

/-- A walk is as long from any depth. -/
theorem length_preorderFrom (depth : Nat) (node : Node) :
    (node.preorderFrom depth).length = node.preorder.length := by
  rw [preorder]
  generalize 0 = other
  induction node using children_induction generalizing depth other with
  | hstep node ih =>
    rw [preorderFrom_eq, preorderFrom_eq, List.length_cons, List.length_cons, List.length_flatMap,
      List.length_flatMap]
    congr 2
    exact List.map_congr_left fun child hchild => ih child hchild (depth + 1) (other + 1)

theorem count_eq (node : Node) : node.count = (node.children.map count).sum + 1 := by
  rw [count_eq_length_preorder, preorder, preorderFrom_eq, List.length_cons, List.length_flatMap]
  congr 2
  refine List.map_congr_left fun child _ => ?_
  rw [length_preorderFrom, count_eq_length_preorder]

end Node

end TreeDump
