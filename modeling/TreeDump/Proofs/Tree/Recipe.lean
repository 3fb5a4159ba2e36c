import TreeDump.Dump.Write
import TreeDump.Proofs.Tree.Sound

namespace TreeDump

/-- The nodes of a kind, in the type that is made for them. -/
@[reducible] def NodeKind.Carrier : NodeKind → Type
  | .program => Program
  | .declaration => Declaration
  | .declarator => Declarator
  | .identifier => Identifier
  | .expression => Expression
  | .literal => Literal

namespace NodeKind

instance : (kind : NodeKind) → Dumpable kind.Carrier
  | .program => inferInstanceAs (Dumpable Program)
  | .declaration => inferInstanceAs (Dumpable Declaration)
  | .declarator => inferInstanceAs (Dumpable Declarator)
  | .identifier => inferInstanceAs (Dumpable Identifier)
  | .expression => inferInstanceAs (Dumpable Expression)
  | .literal => inferInstanceAs (Dumpable Literal)

/-- Gives a node of any kind a span. -/
def withSpan (start stop : UInt32) : (kind : NodeKind) → kind.Carrier → Except Fault kind.Carrier
  | .program => Program.withSpan start stop
  | .declaration => Declaration.withSpan start stop
  | .declarator => Declarator.withSpan start stop
  | .identifier => Identifier.withSpan start stop
  | .expression => Expression.withSpan start stop
  | .literal => Literal.withSpan start stop

variable {kind : NodeKind}

/-- A node keeps its information, its label and its span when it is put among other nodes. -/
theorem info_toNode (node : kind.Carrier) : (toNode node).info = NodeLike.info node := by
  cases kind <;> rfl

theorem label_toNode (node : kind.Carrier) : (toNode node).label = NodeLike.label node := by
  cases kind <;> rfl

theorem map_toNode_withSpan (start stop : UInt32) (node : kind.Carrier) :
    (kind.withSpan start stop node).map toNode = (toNode node).withSpan start stop := by
  cases kind <;> rfl

end NodeKind

/-- The calls by which a node of a kind is made. A node that is put into another one is first made into
    a node of any kind; a copy is a node like the one copied. -/
inductive Recipe : NodeKind → Type where
  | named (name : String) : Recipe .identifier
  | defaultIdentifier : Recipe .identifier
  | holding (value : Scalar) : Recipe .literal
  | undefined : Recipe .literal
  | defaultLiteral : Recipe .literal
  | unspecified : Recipe .expression
  | defaultExpression : Recipe .expression
  | binding (id : Recipe .identifier) (init : Recipe .literal) : Recipe .declarator
  | uninitialized (id : Recipe .identifier) : Recipe .declarator
  | emptyDeclaration (keyword : Keyword) : Recipe .declaration
  | appendDeclarator (d : Recipe .declaration) (declarator : Recipe .declarator) : Recipe .declaration
  | addingDeclarator (d : Recipe .declaration) (declarator : Recipe .declarator) : Recipe .declaration
  | emptyProgram : Recipe .program
  | defaultProgram : Recipe .program
  | appendNode {kind : NodeKind} (p : Recipe .program) (node : Recipe kind) : Recipe .program
  | addingNode {kind : NodeKind} (p : Recipe .program) (node : Recipe kind) : Recipe .program
  | withSpan {kind : NodeKind} (start stop : UInt32) (node : Recipe kind) : Recipe kind
  | copy {kind : NodeKind} (node : Recipe kind) : Recipe kind

namespace Recipe

/-- Makes the node, unless one of the calls is at fault. -/
def eval : {kind : NodeKind} → Recipe kind → Except Fault kind.Carrier
  | _, named name => .ok (Identifier.named name)
  | _, defaultIdentifier => .ok (default : Identifier)
  | _, holding value => .ok (Literal.holding value)
  | _, undefined => .ok Literal.undefined
  | _, defaultLiteral => .ok (default : Literal)
  | _, unspecified => .ok Expression.unspecified
  | _, defaultExpression => .ok (default : Expression)
  | _, binding id init => do
    let id ← id.eval
    let init ← init.eval
    return Declarator.binding id init
  | _, uninitialized id => do
    let id ← id.eval
    return Declarator.uninitialized id
  | _, emptyDeclaration keyword => .ok (Declaration.empty keyword)
  | _, appendDeclarator d declarator => do
    let d ← d.eval
    let declarator ← declarator.eval
    return Declaration.append d declarator
  | _, addingDeclarator d declarator => do
    let d ← d.eval
    let declarator ← declarator.eval
    return Declaration.adding d declarator
  | _, emptyProgram => .ok Program.empty
  | _, defaultProgram => .ok (default : Program)
  | _, appendNode p node => do
    let p ← p.eval
    let node ← node.eval
    return Program.append p (toNode node)
  | _, addingNode p node => do
    let p ← p.eval
    let node ← node.eval
    return Program.adding p (toNode node)
  | kind, withSpan start stop node => do
    let node ← node.eval
    kind.withSpan start stop node
  | _, copy node => node.eval

/-- All spans that are given to nodes have their bounds in order. -/
def Ordered : {kind : NodeKind} → Recipe kind → Prop
  | _, binding id init => id.Ordered ∧ init.Ordered
  | _, uninitialized id => id.Ordered
  | _, appendDeclarator d declarator => d.Ordered ∧ declarator.Ordered
  | _, addingDeclarator d declarator => d.Ordered ∧ declarator.Ordered
  | _, appendNode p node => p.Ordered ∧ node.Ordered
  | _, addingNode p node => p.Ordered ∧ node.Ordered
  | _, withSpan start stop node => start ≤ stop ∧ node.Ordered
  | _, copy node => node.Ordered
  | _, _ => True

/-- What may come of calls: a sound node if their spans are in order, and the fault of a reversed span
    if not. -/
def Yields {α : Type} [NodeLike α] (ordered : Prop) : Except Fault α → Prop
  | .ok node => ordered ∧ (toNode node).Sound
  | .error fault => ¬ ordered ∧ fault = .reversedSpan

namespace Yields

variable {α β γ : Type} [NodeLike α] [NodeLike β] [NodeLike γ] {ordered ordered' : Prop}
  {first : Except Fault α} {second : Except Fault β}

theorem map {build : α → γ} (hfirst : Yields ordered first)
    (hbuild : ∀ a, (toNode a).Sound → (toNode (build a)).Sound) :
    Yields ordered (do let a ← first; return build a) := by
  cases first with
  | error fault => exact hfirst
  | ok a => exact ⟨hfirst.1, hbuild a hfirst.2⟩

/-- The second call is not made any more if the first one is at fault. -/
theorem map₂ {build : α → β → γ} (hfirst : Yields ordered first) (hsecond : Yields ordered' second)
    (hbuild : ∀ a b, (toNode a).Sound → (toNode b).Sound → (toNode (build a b)).Sound) :
    Yields (ordered ∧ ordered') (do let a ← first; let b ← second; return build a b) := by
  cases first with
  | error fault => exact ⟨fun hboth => hfirst.1 hboth.1, hfirst.2⟩
  | ok a =>
    cases second with
    | error fault => exact ⟨fun hboth => hsecond.1 hboth.2, hsecond.2⟩
    | ok b => exact ⟨⟨hfirst.1, hsecond.1⟩, hbuild a b hfirst.2 hsecond.2⟩

theorem withSpan {kind : NodeKind} {node : Except Fault kind.Carrier} (hnode : Yields ordered node)
    (start stop : UInt32) :
    Yields (start ≤ stop ∧ ordered) (do let node ← node; kind.withSpan start stop node) := by
  cases node with
  | error fault => exact ⟨fun hboth => hnode.1 hboth.2, hnode.2⟩
  | ok node =>
    have hspan := NodeKind.map_toNode_withSpan start stop node
    change Yields _ (kind.withSpan start stop node)
    by_cases hle : start ≤ stop
    · cases hresult : kind.withSpan start stop node with
      | error fault =>
        rw [hresult, Node.withSpan_of_le hle] at hspan
        cases hspan
      | ok spanned =>
        rw [hresult] at hspan
        exact ⟨⟨hle, hnode.1⟩, hnode.2.withSpan hspan.symm⟩
    · cases hresult : kind.withSpan start stop node with
      | error fault =>
        rw [hresult, Node.withSpan_of_not_le hle] at hspan
        exact ⟨fun hboth => hle hboth.1, Except.error.inj hspan⟩
      | ok spanned =>
        rw [hresult, Node.withSpan_of_not_le hle] at hspan
        cases hspan

end Yields

/-- By the calls of the recipe, the last one first: each keeps what holds of its arguments. -/
theorem yields_eval {kind : NodeKind} (recipe : Recipe kind) : Yields recipe.Ordered recipe.eval := by
  induction recipe with
  | named name => exact ⟨trivial, Node.sound_of_childless rfl rfl⟩
  | defaultIdentifier => exact ⟨trivial, Node.sound_of_childless rfl rfl⟩
  | holding value => exact ⟨trivial, Node.sound_of_childless rfl rfl⟩
  | undefined => exact ⟨trivial, Node.sound_of_childless rfl rfl⟩
  | defaultLiteral => exact ⟨trivial, Node.sound_of_childless rfl rfl⟩
  | unspecified => exact ⟨trivial, Node.sound_of_childless rfl rfl⟩
  | defaultExpression => exact ⟨trivial, Node.sound_of_childless rfl rfl⟩
  | binding id init hid hinit =>
    apply hid.map₂ hinit
    intro id init hid hinit
    exact Node.sound_of_ofKind rfl
      (List.forall_mem_cons.mpr ⟨hid, List.forall_mem_singleton.mpr hinit⟩)
  | uninitialized id hid =>
    have hinit : (Node.literal .undefined).Sound := Node.sound_of_childless rfl rfl
    apply hid.map
    intro id hid
    exact Node.sound_of_ofKind rfl
      (List.forall_mem_cons.mpr ⟨hid, List.forall_mem_singleton.mpr hinit⟩)
  | emptyDeclaration keyword => exact ⟨trivial, Node.sound_of_childless rfl rfl⟩
  | appendDeclarator d declarator hd hdeclarator =>
    apply hd.map₂ hdeclarator
    intro d declarator hd hdeclarator
    exact hd.append hdeclarator rfl rfl List.map_append
  | addingDeclarator d declarator hd hdeclarator =>
    apply hd.map₂ hdeclarator
    intro d declarator hd hdeclarator
    exact hd.append hdeclarator rfl rfl List.map_append
  | emptyProgram => exact ⟨trivial, Node.sound_of_childless rfl rfl⟩
  | defaultProgram => exact ⟨trivial, Node.sound_of_childless rfl rfl⟩
  | appendNode p node hp hnode =>
    apply hp.map₂ hnode
    intro p node hp hnode
    exact hp.append hnode rfl rfl rfl
  | addingNode p node hp hnode =>
    apply hp.map₂ hnode
    intro p node hp hnode
    exact hp.append hnode rfl rfl rfl
  | withSpan start stop node hnode => exact hnode.withSpan start stop
  | copy node hnode => exact hnode

end Recipe

end TreeDump
