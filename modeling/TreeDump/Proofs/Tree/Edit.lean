import TreeDump.Proofs.Tree.Equality
import TreeDump.Proofs.Tree.Sound
import TreeDump.Proofs.Tree.Visit

namespace TreeDump

/-- The types of nodes that take in any number of children. What edits make of such a node can be
    said at once, by its information and the children that were added. -/
class Composite (α : Type) (γ : outParam Type) [NodeLike α] [NodeLike γ] where
  append : α → γ → α
  adding : α → γ → α
  withSpan : UInt32 → UInt32 → α → Except Fault α
  size : α → Nat
  /-- The node with other information and with more children behind its own. -/
  grown : α → NodeInfo → List γ → α
  grown_self : ∀ node, grown node (NodeLike.info node) [] = node
  append_grown : ∀ node info added child,
    append (grown node info added) child = grown node info (added ++ [child])
  adding_eq : ∀ node child, adding node child = append node child
  withSpan_grown : ∀ node info added start stop,
    withSpan start stop (grown node info added) =
      (info.withSpan start stop).map fun info => grown node info added
  size_grown : ∀ node info added, size (grown node info added) = size node + added.length
  info_grown : ∀ node info added, (toNode (grown node info added)).info = info
  variant_grown : ∀ node info added, (toNode (grown node info added)).variant = (toNode node).variant
  keyword_grown : ∀ node info added, (toNode (grown node info added)).keyword? = (toNode node).keyword?
  children_grown : ∀ node info added,
    (toNode (grown node info added)).children = (toNode node).children ++ added.map toNode

theorem Composite.info_toNode {α γ : Type} [NodeLike α] [NodeLike γ] [Composite α γ] (node : α) :
    (toNode node).info = NodeLike.info node := by
  have hinfo := info_grown node (NodeLike.info node) []
  rwa [grown_self] at hinfo

instance : Composite Program Node where
  append := Program.append
  adding := Program.adding
  withSpan := Program.withSpan
  size := Program.size
  grown p info added := ⟨info, p.body ++ added⟩
  grown_self p := congrArg (Program.mk p.info) (List.append_nil p.body)
  append_grown p info added child := congrArg (Program.mk info) (List.append_assoc p.body added [child])
  adding_eq _ _ := rfl
  withSpan_grown _ _ _ _ _ := rfl
  size_grown _ _ _ := List.length_append
  info_grown _ _ _ := rfl
  variant_grown _ _ _ := rfl
  keyword_grown _ _ _ := rfl
  children_grown p _ added := congrArg (p.body ++ ·) (List.map_id added).symm

instance : Composite Declaration Declarator where
  append := Declaration.append
  adding := Declaration.adding
  withSpan := Declaration.withSpan
  size := Declaration.size
  grown d info added := ⟨info, d.keyword, d.declarators ++ added⟩
  grown_self d := congrArg (Declaration.mk d.info d.keyword) (List.append_nil d.declarators)
  append_grown d info added child :=
    congrArg (Declaration.mk info d.keyword) (List.append_assoc d.declarators added [child])
  adding_eq _ _ := rfl
  withSpan_grown _ _ _ _ _ := rfl
  size_grown _ _ _ := List.length_append
  info_grown _ _ _ := rfl
  variant_grown _ _ _ := rfl
  keyword_grown _ _ _ := rfl
  children_grown _ _ _ := List.map_append

/-- One call on a node that takes in children of the type. -/
inductive Edit (γ : Type) where
  | append (child : γ)
  | adding (child : γ)
  | withSpan (start stop : UInt32)

namespace Edit

section Views

variable {γ : Type}

/-- The child that is taken in. -/
def child? : Edit γ → Option γ
  | append child => some child
  | adding child => some child
  | withSpan _ _ => none

/-- The span that is given. -/
def span? : Edit γ → Option Span
  | append _ => none
  | adding _ => none
  | withSpan start stop => some ⟨start, stop⟩

def Ordered (edit : Edit γ) : Prop :=
  ∀ span ∈ edit.span?, span.Ordered

theorem forall_ordered_iff {edits : List (Edit γ)} :
    (∀ edit ∈ edits, edit.Ordered) ↔ ∀ span ∈ edits.filterMap span?, span.Ordered := by
  simp only [List.mem_filterMap, Ordered]
  exact ⟨fun hall span ⟨edit, hedit, hspan⟩ => hall edit hedit span hspan,
    fun hall edit hedit span hspan => hall span ⟨edit, hedit, hspan⟩⟩

end Views

variable {α γ : Type} [NodeLike α] [NodeLike γ] [Composite α γ]

def run (node : α) : Edit γ → Except Fault α
  | append child => .ok (Composite.append node child)
  | adding child => .ok (Composite.adding node child)
  | withSpan start stop => Composite.withSpan start stop node

/-- Makes the calls one after the other, up to the first at fault. -/
def runAll (node : α) (edits : List (Edit γ)) : Except Fault α :=
  edits.foldlM run node

/-- A single edit adds to what was added before, or it replaces the span. -/
theorem run_grown {edit : Edit γ} (hordered : edit.Ordered) (node : α) (info : NodeInfo) (added : List γ) :
    run (Composite.grown node info added) edit =
      .ok (Composite.grown node { info with span := edit.span?.or info.span }
        (added ++ edit.child?.toList)) := by
  cases edit with
  | append child => exact congrArg Except.ok (Composite.append_grown node info added child)
  | adding child =>
    rw [run, Composite.adding_eq]
    exact congrArg Except.ok (Composite.append_grown node info added child)
  | withSpan start stop =>
    have hle : start ≤ stop := hordered ⟨start, stop⟩ rfl
    rw [run, Composite.withSpan_grown, NodeInfo.withSpan_of_le hle, child?, Option.toList_none,
      List.append_nil]
    rfl

/-- By induction on the edits, for a node that may have been edited before. -/
theorem runAll_grown {edits : List (Edit γ)} (hordered : ∀ edit ∈ edits, edit.Ordered) (node : α)
    (info : NodeInfo) (added : List γ) :
    runAll (Composite.grown node info added) edits =
      .ok (Composite.grown node { info with span := (edits.filterMap span?).getLast?.or info.span }
        (added ++ edits.filterMap child?)) := by
  induction edits generalizing info added with
  | nil =>
    rw [List.filterMap_nil, List.filterMap_nil, List.append_nil]
    rfl
  | cons edit edits ih =>
    obtain ⟨hfirst, hrest⟩ := List.forall_mem_cons.mp hordered
    have hspan : ((edit :: edits).filterMap span?).getLast?.or info.span =
        (edits.filterMap span?).getLast?.or (edit.span?.or info.span) := by
      rw [List.filterMap_cons]
      cases edit.span? with
      | none => rfl
      | some span => cases hlast : (edits.filterMap span?).getLast? <;> simp [List.getLast?_cons, hlast]
    have hadded : added ++ (edit :: edits).filterMap child? =
        added ++ edit.child?.toList ++ edits.filterMap child? := by
      rw [List.filterMap_cons, List.append_assoc]
      cases edit.child? <;> rfl
    rw [runAll, List.foldlM_cons, run_grown hfirst, hspan, hadded]
    exact ih hrest _ _

theorem runAll_eq {edits : List (Edit γ)} (hordered : ∀ edit ∈ edits, edit.Ordered) (node : α) :
    runAll node edits =
      .ok (Composite.grown node
        { NodeLike.info node with span := (edits.filterMap span?).getLast?.or (NodeLike.span node) }
        (edits.filterMap child?)) := by
  have hrun := runAll_grown hordered node (NodeLike.info node) []
  rwa [Composite.grown_self] at hrun

end Edit

namespace Node

variable {node result : Node} {added : List Node}

/-- Behind its root, the walk goes through what was there before and then through what was added. -/
theorem preorder_of_children_append (hchildren : result.children = node.children ++ added) :
    result.preorder = (0, result) :: (node.preorder.tail ++ added.flatMap (preorderFrom 1)) := by
  rw [preorder, preorderFrom_eq, hchildren, List.flatMap_append, preorder, preorderFrom_eq,
    List.tail_cons]

theorem count_of_children_append (hchildren : result.children = node.children ++ added) :
    result.count = node.count + (added.map count).sum := by
  rw [count_eq, count_eq node, hchildren, List.map_append, List.sum_append]
  omega

end Node

/-- Edits with their spans in order can all be made. The children that are added come behind those
    already there, in the order of the calls and as they are; the last span given is the one that
    stays, and nothing else changes. Sizes, walks and counts add up, and the same calls in another
    order, or by the other way of adding a child, lead to the same tree as long as children and
    spans each come in the same order. -/
theorem edits_only_add_children_and_replace_span {α γ : Type} [NodeLike α] [NodeLike γ]
    [Composite α γ] (node : α) (edits : List (Edit γ)) (hordered : ∀ edit ∈ edits, edit.Ordered) :
    let added := edits.filterMap Edit.child?
    ∃ result : α, Edit.runAll node edits = .ok result ∧
      (toNode result).children = (toNode node).children ++ added.map toNode ∧
      (toNode result).span = (edits.filterMap Edit.span?).getLast?.or (toNode node).span ∧
      (toNode result).kind = (toNode node).kind ∧
      (toNode result).variant = (toNode node).variant ∧
      (toNode result).keyword? = (toNode node).keyword? ∧
      Composite.size result = Composite.size node + added.length ∧
      (toNode result).preorder = (0, toNode result) ::
        ((toNode node).preorder.tail ++ (added.map toNode).flatMap (Node.preorderFrom 1)) ∧
      (toNode result).count = (toNode node).count + ((added.map toNode).map Node.count).sum ∧
      ((toNode result == toNode result) = true ↔ (toNode result).FreeOfNaN) ∧
      ∀ others : List (Edit γ), others.filterMap Edit.child? = edits.filterMap Edit.child? →
        others.filterMap Edit.span? = edits.filterMap Edit.span? →
          Edit.runAll node others = .ok result := by
  intro added
  let info : NodeInfo :=
    { NodeLike.info node with span := (edits.filterMap Edit.span?).getLast?.or (NodeLike.span node) }
  have hinfo : (toNode node).info = NodeLike.info node := Composite.info_toNode node
  have hchildren := Composite.children_grown node info added
  refine ⟨Composite.grown node info added, Edit.runAll_eq hordered node, hchildren, ?_, ?_,
    Composite.variant_grown node info added, Composite.keyword_grown node info added,
    Composite.size_grown node info added, Node.preorder_of_children_append hchildren,
    Node.count_of_children_append hchildren, Node.beq_self_iff _, ?_⟩
  · rw [Node.span, Composite.info_grown, Node.span, hinfo]
    rfl
  · rw [Node.kind, Composite.info_grown, Node.kind, hinfo]
  · intro others hothers hspans
    have hspansOrdered := Edit.forall_ordered_iff.mp hordered
    rw [← hspans] at hspansOrdered
    rw [Edit.runAll_eq (Edit.forall_ordered_iff.mpr hspansOrdered) node, hothers, hspans]

/-- A program in a program, a name and three spans, one of them given again. -/
theorem edits_of_nested_programs :
    let inner : Program := Program.empty.append (.identifier (.named "x"))
    let edits : List (Edit Node) :=
      [.withSpan 4 9, .append (toNode inner), .withSpan 0 0, .adding (.identifier (.named "y")), .withSpan 4 9]
    (∀ edit ∈ edits, edit.Ordered) ∧
      ∃ result : Program, Edit.runAll inner edits = .ok result ∧
        (toNode result).span = some ⟨4, 9⟩ ∧ Composite.size result = 3 ∧ (toNode result).count = 5 ∧
        Edit.runAll inner [.withSpan 4 9, .withSpan 0 0, .withSpan 4 9, .adding (toNode inner),
          .append (.identifier (.named "y"))] = .ok result := by
  intro inner edits
  have hordered : ∀ edit ∈ edits, edit.Ordered := Edit.forall_ordered_iff.mpr (by decide)
  obtain ⟨result, hrun, _, hspan, _, _, _, hsize, _, hcount, _, hothers⟩ :=
    edits_only_add_children_and_replace_span inner edits hordered
  exact ⟨hordered, result, hrun, hspan, hsize, hcount, hothers _ rfl rfl⟩

end TreeDump
