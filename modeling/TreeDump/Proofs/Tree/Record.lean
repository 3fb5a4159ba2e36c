import TreeDump.Proofs.Tree.Visit

namespace TreeDump

namespace NodeKind

/-- The kinds of nodes without children. -/
def isLeaf : NodeKind → Bool
  | .identifier | .expression | .literal => true
  | .program | .declaration | .declarator => false

end NodeKind

namespace Visitor

variable {σ : Type}

/-- The visitor without hooks of its own. -/
def idle : Visitor σ := {}

/-- Hooks for the given kinds record their node and go over it. All other hooks are those that a
    visitor has if none are given. -/
def recorder (hooked : NodeKind → Bool) : Visitor (List Node) where
  program p := if hooked .program then do modify (· ++ [toNode p]); pure .over else idle.program p
  declaration d :=
    if hooked .declaration then do modify (· ++ [toNode d]); pure .over else idle.declaration d
  declarator d :=
    if hooked .declarator then do modify (· ++ [toNode d]); pure .over else idle.declarator d
  identifier i := if hooked .identifier then modify (· ++ [toNode i]) else idle.identifier i
  expression e := if hooked .expression then modify (· ++ [toNode e]) else idle.expression e
  literal l := if hooked .literal then modify (· ++ [toNode l]) else idle.literal l

end Visitor

namespace Place

/-- The node is of a hooked kind, and no node above it is. -/
def Outermost (hooked : NodeKind → Bool) (place : Place) : Prop :=
  hooked place.node.variant = true ∧ ∀ ancestor ∈ place.above, hooked ancestor.variant = false

instance (hooked : NodeKind → Bool) (place : Place) : Decidable (place.Outermost hooked) :=
  inferInstanceAs (Decidable (_ ∧ _))

end Place

namespace Node

/-- The nodes of hooked kinds that stand in no node of such a kind, in pre-order. -/
def outermost (hooked : NodeKind → Bool) (node : Node) : List Node :=
  (node.places.filter fun place => place.Outermost hooked).map (·.node)

variable {hooked : NodeKind → Bool} {above : List Node}

theorem children_eq_nil_of_isLeaf {node : Node} (hleaf : node.variant.isLeaf = true) :
    node.children = [] := by
  cases node with
  | program info body => cases hleaf
  | declaration d => cases hleaf
  | declarator d => cases hleaf
  | identifier i => rfl
  | expression e => rfl
  | literal l => rfl

/-- No place below a hooked node is outermost. -/
theorem not_outermost_of_mem_placesFrom {node ancestor : Node} {place : Place}
    (hplace : place ∈ node.placesFrom above) (hmem : ancestor ∈ above)
    (hancestor : hooked ancestor.variant = true) : ¬ place.Outermost hooked := by
  rintro ⟨_, hnone⟩
  have hfalse := hnone ancestor ((suffix_above_of_mem_placesFrom hplace).subset hmem)
  rw [hancestor] at hfalse
  cases hfalse

theorem filter_outermost_of_hooked {node : Node} (hnode : hooked node.variant = true)
    (habove : ∀ ancestor ∈ above, hooked ancestor.variant = false) :
    (node.placesFrom above).filter (fun place => place.Outermost hooked) = [⟨node, above⟩] := by
  have hroot : (⟨node, above⟩ : Place).Outermost hooked := ⟨hnode, habove⟩
  have hbelow : (node.children.flatMap (placesFrom (node :: above))).filter
      (fun place => place.Outermost hooked) = [] := by
    rw [List.filter_eq_nil_iff]
    intro place hplace
    obtain ⟨child, _, hplace⟩ := List.mem_flatMap.mp hplace
    simpa using not_outermost_of_mem_placesFrom hplace List.mem_cons_self hnode
  rw [placesFrom_eq, List.filter_cons_of_pos (by simpa using hroot), hbelow]

theorem filter_outermost_of_not_hooked {node : Node} (hnode : hooked node.variant = false)
    (above : List Node) :
    ([⟨node, above⟩] : List Place).filter (fun place => place.Outermost hooked) = [] := by
  simp [Place.Outermost, hnode]

end Node

namespace Visitor

variable {hooked : NodeKind → Bool}

theorem run_hook_recorder_of_hooked {node : Node} (hnode : hooked node.variant = true)
    (seen : List Node) : ((recorder hooked).hook node).run seen = (.over, seen ++ [node]) := by
  cases node <;> simp only [Node.variant] at hnode <;> simp [hook, recorder, hnode] <;> rfl

theorem run_hook_recorder_of_not_hooked {node : Node} (hnode : hooked node.variant = false)
    (seen : List Node) :
    ((recorder hooked).hook node).run seen =
      (if node.variant.isLeaf then .over else .into, seen) := by
  cases node <;> simp only [Node.variant] at hnode <;> simp [hook, recorder, hnode] <;> rfl

theorem run_visitNode_recorder (hooked : NodeKind → Bool) (node : Node) (seen : List Node) :
    ((recorder hooked).visitNode node).run seen = ((), seen ++ node.outermost hooked) := by
  refine run_visitNode
    (fun seen places => seen ++ (places.filter fun place => place.Outermost hooked).map (·.node))
    (fun above => ∀ ancestor ∈ above, hooked ancestor.variant = false)
    (fun seen => List.append_nil seen) ?_ ?_ (List.forall_mem_nil _) node seen
  · intro seen first second
    rw [List.filter_append, List.map_append, List.append_assoc]
  · intro node above seen hreached
    cases hnode : hooked node.variant with
    | true =>
      right
      rw [run_hook_recorder_of_hooked hnode, Node.filter_outermost_of_hooked hnode hreached]
      rfl
    | false =>
      have hunseen := Node.filter_outermost_of_not_hooked hnode above
      cases hleaf : node.variant.isLeaf with
      | true =>
        have hplaces : node.placesFrom above = [⟨node, above⟩] := by
          rw [Node.placesFrom_eq, Node.children_eq_nil_of_isLeaf hleaf, List.flatMap_nil]
        right
        rw [run_hook_recorder_of_not_hooked hnode, hleaf, hplaces, hunseen, List.map_nil,
          List.append_nil]
        rfl
      | false =>
        left
        refine ⟨?_, List.forall_mem_cons.mpr ⟨hnode, hreached⟩⟩
        rw [run_hook_recorder_of_not_hooked hnode, hleaf, hunseen, List.map_nil, List.append_nil]
        rfl

end Visitor

namespace Node

variable {hooked : NodeKind → Bool} {node : Node}

/-- No leaf stands in a leaf, so all of them are outermost among the leaves. -/
theorem outermost_isLeaf (node : Node) :
    node.outermost NodeKind.isLeaf = (node.preorder.map (·.2)).filter (·.variant.isLeaf) := by
  rw [outermost, ← map_node_places, List.filter_map]
  congr 1
  refine List.filter_congr fun place hplace => ?_
  have habove : ∀ ancestor ∈ place.above, ancestor.variant.isLeaf = false := by
    intro ancestor hancestor
    obtain ⟨child, hchild⟩ := place.exists_mem_children_of_mem_above hplace ancestor hancestor
    cases hleaf : ancestor.variant.isLeaf with
    | false => rfl
    | true =>
      rw [children_eq_nil_of_isLeaf hleaf] at hchild
      cases hchild
  simp [Place.Outermost, and_iff_left habove]

end Node

namespace Place

variable {hooked : NodeKind → Bool} {root : Node} {place : Place}

/-- Nothing in a program is hidden by a hook, unless by one for programs. -/
theorem outermost_of_program (hprogram : hooked .program = false) (hplace : place ∈ root.places)
    (hhooked : hooked place.node.variant = true) {parent : Node}
    (hparent : place.above.head? = some parent) (hvariant : parent.variant = .program) :
    place.Outermost hooked := by
  refine ⟨hhooked, fun ancestor hancestor => ?_⟩
  rw [variant_of_mem_above hplace hparent hvariant ancestor hancestor]
  exact hprogram

/-- A hook for declarations hides the declarators in them and no others. -/
theorem outermost_declarator_iff (hdeclaration : hooked .declaration = true)
    (hprogram : hooked .program = false) (hplace : place ∈ root.places)
    (hhooked : hooked place.node.variant = true) (hdeclarator : place.node.variant = .declarator) :
    place.Outermost hooked ↔ ∀ parent, place.above.head? = some parent →
      parent.variant ≠ .declaration := by
  constructor
  · rintro ⟨_, hnone⟩ parent hparent hvariant
    have hfalse := hnone parent (List.mem_of_mem_head? hparent)
    rw [hvariant, hdeclaration] at hfalse
    cases hfalse
  · intro hparents
    cases hparent : place.above.head? with
    | none =>
      rw [List.head?_eq_none_iff] at hparent
      refine ⟨hhooked, ?_⟩
      rw [hparent]
      exact fun _ hancestor => nomatch hancestor
    | some parent =>
      have hchild : place.node ∈ parent.children :=
        (List.isChain_cons.mp (isChain_of_mem_places hplace)).1 parent hparent
      obtain hvariant | ⟨hvariant, _⟩ | ⟨_, hother⟩ := Node.variant_of_mem_children hchild
      · exact outermost_of_program hprogram hplace hhooked hparent hvariant
      · exact absurd hvariant (hparents parent hparent)
      · rw [hdeclarator] at hother
        obtain hother | hother := hother <;> cases hother

end Place

/-- A visitor with hooks that record nodes of some kinds, started on any node by whichever of its
    functions, records the outermost nodes of these kinds, each once and in pre-order. With hooks for
    the leaves it sees every leaf. With a hook for declarations and none for programs it sees all that
    stands directly in a program, and of the declarators all but those that stand in a
    declaration. -/
theorem Visitor.recorder_records_outermost {α : Type} [NodeLike α] [Visitable α]
    (hooked : NodeKind → Bool) (node : α) (seen : List Node) :
    (visit (recorder hooked) node).run seen = ((), seen ++ (toNode node).outermost hooked) ∧
    (toNode node).places.map (fun place => (place.above.length, place.node)) =
      (toNode node).preorder ∧
    (visit (recorder NodeKind.isLeaf) node).run seen =
      ((), seen ++ ((toNode node).preorder.map (·.2)).filter (·.variant.isLeaf)) ∧
    (hooked .declaration = true → hooked .program = false →
      ∀ place ∈ (toNode node).places, hooked place.node.variant = true →
        (∀ parent, place.above.head? = some parent → parent.variant = .program →
          place.Outermost hooked) ∧
        (place.node.variant = .declarator → (place.Outermost hooked ↔
          ∀ parent, place.above.head? = some parent → parent.variant ≠ .declaration))) := by
  have hvisit (hooked : NodeKind → Bool) :
      (visit (recorder hooked) node).run seen = ((), seen ++ (toNode node).outermost hooked) := by
    rw [← Visitable.visitNode_toNode]
    exact run_visitNode_recorder hooked (toNode node) seen
  refine ⟨hvisit hooked, Node.map_places (toNode node), ?_, ?_⟩
  · rw [hvisit, Node.outermost_isLeaf]
  · intro hdeclaration hprogram place hplace hhooked
    exact ⟨fun parent => Place.outermost_of_program hprogram hplace hhooked,
      Place.outermost_declarator_iff hdeclaration hprogram hplace hhooked⟩

end TreeDump
