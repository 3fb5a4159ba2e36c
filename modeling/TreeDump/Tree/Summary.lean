import TreeDump.Tree.Children
import TreeDump.Tree.Visitor

namespace TreeDump

namespace Node

/-- The stored kind, followed by the span of a node that has one. -/
def caption (node : Node) : String :=
  match node.span with
  | none => node.kind.name
  | some span => node.kind.name ++ "@" ++ span.text

/-- One line for each node of the pre-order walk, with its depth in front. -/
def outline (node : Node) : List String :=
  node.preorder.map fun (depth, descendant) => Nat.repr depth ++ " " ++ descendant.caption

/-- The number of nodes that a program or a declaration holds directly. -/
def size? : Node → Option Nat
  | .program _ body => some body.length
  | .declaration d => some d.size
  | _ => none

end Node

namespace Visitor

/-- Lists the leaves from left to right: names, expressions, and values with their types. -/
def leaves : Visitor (Array String) where
  identifier i := modify (·.push ("id " ++ i.name))
  expression e := modify (·.push ("expr " ++ NodeLike.label e))
  literal l := modify (·.push (l.value.typeName ++ " " ++ l.value.text))

/-- What a walk that stops at declarations and declarators has met. -/
structure Surface where
  /-- Keyword and number of declarators of each declaration. -/
  declarations : Array String
  /-- The number of declarators outside declarations. -/
  declarators : Nat

/-- Goes over declarations and declarators once it has noted them. -/
def surface : Visitor Surface where
  declaration d := do
    let entry := d.keyword.text ++ " " ++ Nat.repr d.size
    modify fun seen => { seen with declarations := seen.declarations.push entry }
    pure .over
  declarator _ := do
    modify fun seen => { seen with declarators := seen.declarators + 1 }
    pure .over

end Visitor

namespace Node

def leaves (node : Node) : Array String :=
  ((Visitor.leaves.visitNode node).run #[]).2

def surface (node : Node) : Visitor.Surface :=
  ((Visitor.surface.visitNode node).run ⟨#[], 0⟩).2

end Node

end TreeDump
