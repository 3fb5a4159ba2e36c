import TreeDump.Tree.Node

namespace TreeDump

/-- How a walk continues at a node that has been visited. -/
inductive Step where
  /-- To the node's children. -/
  | into
  /-- Past the node's children. -/
  | over
deriving DecidableEq

/-- The hooks of a visitor with state `σ`. Leaves have no children, so their hooks decide nothing. -/
structure Visitor (σ : Type) where
  program : Program → StateM σ Step := fun _ => pure .into
  declaration : Declaration → StateM σ Step := fun _ => pure .into
  declarator : Declarator → StateM σ Step := fun _ => pure .into
  identifier : Identifier → StateM σ Unit := fun _ => pure ()
  expression : Expression → StateM σ Unit := fun _ => pure ()
  literal : Literal → StateM σ Unit := fun _ => pure ()

namespace Visitor

variable {σ : Type}

def visitDeclarator (v : Visitor σ) (d : Declarator) : StateM σ Unit := do
  match ← v.declarator d with
  | .into =>
    v.identifier d.id
    v.literal d.init
  | .over => pure ()

/-- Declarators reached through their declaration, in order. -/
def visitDeclarators (v : Visitor σ) : List Declarator → StateM σ Unit
  | [] => pure ()
  | d :: ds => do
    v.visitDeclarator d
    v.visitDeclarators ds

def visitDeclaration (v : Visitor σ) (d : Declaration) : StateM σ Unit := do
  match ← v.declaration d with
  | .into => v.visitDeclarators d.declarators
  | .over => pure ()

mutual

def visitNode (v : Visitor σ) : Node → StateM σ Unit
  | .program info body => do
    match ← v.program ⟨info, body⟩ with
    | .into => visitNodes v body
    | .over => pure ()
  | .declaration d => v.visitDeclaration d
  | .declarator d => v.visitDeclarator d
  | .identifier i => v.identifier i
  | .expression e => v.expression e
  | .literal l => v.literal l

def visitNodes (v : Visitor σ) : List Node → StateM σ Unit
  | [] => pure ()
  | node :: nodes => do
    visitNode v node
    visitNodes v nodes

end

def visitProgram (v : Visitor σ) (p : Program) : StateM σ Unit := do
  match ← v.program p with
  | .into => v.visitNodes p.body
  | .over => pure ()

/-- A program is visited alike by itself and as a node. -/
theorem visitNode_toNode (v : Visitor σ) (p : Program) :
    v.visitNode (toNode p) = v.visitProgram p := rfl

/-- Counts the nodes it meets and passes none over. The count has no bound; that it stays below that of
    a machine word is assumed. -/
def counter : Visitor Nat where
  program _ := do modify (· + 1); pure .into
  declaration _ := do modify (· + 1); pure .into
  declarator _ := do modify (· + 1); pure .into
  identifier _ := modify (· + 1)
  expression _ := modify (· + 1)
  literal _ := modify (· + 1)

end Visitor

/-- Types of nodes that a visitor can be started on. The type a node is given in makes no difference to
    the visit. -/
class Visitable (α : Type) [NodeLike α] where
  visit : {σ : Type} → Visitor σ → α → StateM σ Unit
  visitNode_toNode : ∀ {σ : Type} (v : Visitor σ) (node : α), v.visitNode (toNode node) = visit v node

export Visitable (visit)

instance : Visitable Identifier := ⟨fun v => v.identifier, fun _ _ => rfl⟩
instance : Visitable Literal := ⟨fun v => v.literal, fun _ _ => rfl⟩
instance : Visitable Expression := ⟨fun v => v.expression, fun _ _ => rfl⟩
instance : Visitable Declarator := ⟨fun v => v.visitDeclarator, fun _ _ => rfl⟩
instance : Visitable Declaration := ⟨fun v => v.visitDeclaration, fun _ _ => rfl⟩
instance : Visitable Program := ⟨fun v => v.visitProgram, Visitor.visitNode_toNode⟩
instance : Visitable Node := ⟨fun v => v.visitNode, fun _ _ => rfl⟩

/-- The number of nodes in the tree below and including this one. -/
def Node.count (node : Node) : Nat :=
  ((Visitor.counter.visitNode node).run 0).2

end TreeDump
