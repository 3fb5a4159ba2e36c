import TreeDump.Tree.Node

namespace TreeDump

def NodeInfo.inspect (info : NodeInfo) : String :=
  let span := match info.span with
    | none => "None"
    | some span => Text.variant "Some" span.inspect
  Text.record "NodeData" [("kind", info.kind.name), ("range", span)]

def Identifier.inspect (i : Identifier) : String :=
  Text.record "Identifier" [("data", i.info.inspect), ("name", Text.quoted i.name)]

def Literal.inspect (l : Literal) : String :=
  Text.record "Literal" [("data", l.info.inspect), ("value", l.value.inspect)]

def Expression.inspect (e : Expression) : String :=
  Text.record "Expression" [("data", e.info.inspect)]

def Declarator.inspect (d : Declarator) : String :=
  Text.record "VariableDeclarator"
    [("data", d.info.inspect), ("id", d.id.inspect), ("init", d.init.inspect)]

def Declaration.inspect (d : Declaration) : String :=
  Text.record "VariableDeclaration"
    [("data", d.info.inspect), ("kind", d.keyword.inspect),
      ("declarations", Text.bracketed (d.declarators.map Declarator.inspect))]

namespace Node

/-- The record of a program, given the texts of the nodes in its body. -/
def inspectProgram (info : NodeInfo) (body : List String) : String :=
  Text.record "Program" [("data", info.inspect), ("body", Text.bracketed body)]

mutual

/-- The text of a node among others, wrapped in the name of its case. -/
def inspect : Node → String
  | .program info body => Text.variant "Program" (inspectProgram info (inspectBody body))
  | .declaration d => Text.variant "VariableDeclaration" d.inspect
  | .declarator d => Text.variant "VariableDeclarator" d.inspect
  | .identifier i => Text.variant "Identifier" i.inspect
  | .expression e => Text.variant "Expression" e.inspect
  | .literal l => Text.variant "Literal" l.inspect

def inspectBody : List Node → List String
  | [] => []
  | node :: nodes => inspect node :: inspectBody nodes

end

end Node

def Program.inspect (p : Program) : String :=
  Node.inspectProgram p.info (Node.inspectBody p.body)

/-- The text of a node without the name of its case. -/
def Node.inspectBare : Node → String
  | .program info body => Program.inspect ⟨info, body⟩
  | .declaration d => d.inspect
  | .declarator d => d.inspect
  | .identifier i => i.inspect
  | .expression e => e.inspect
  | .literal l => l.inspect

end TreeDump
