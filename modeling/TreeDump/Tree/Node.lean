import TreeDump.Kind
import TreeDump.Scalar
import TreeDump.Span

namespace TreeDump

/-- What every node holds beside its own fields: its kind and, when known, where it came from. -/
structure NodeInfo where
  kind : NodeKind
  span : Option Span
deriving DecidableEq, Inhabited

namespace NodeInfo

/-- The information of a new node of the given kind, without a span. -/
def ofKind (kind : NodeKind) : NodeInfo :=
  ⟨kind, none⟩

/-- Replaces the span. The kind stays, and reversed bounds are refused. -/
def withSpan (start stop : UInt32) (info : NodeInfo) : Except Fault NodeInfo :=
  (Span.between? start stop).map fun span => { info with span := some span }

end NodeInfo

structure Identifier where
  info : NodeInfo
  name : String

structure Literal where
  info : NodeInfo
  value : Scalar

/-- An expression of any form. It holds nothing beyond what all nodes hold. -/
structure Expression where
  info : NodeInfo

/-- One binding of a name to an initial value. -/
structure Declarator where
  info : NodeInfo
  id : Identifier
  init : Literal

/-- A declaration keyword with the bindings it introduces. -/
structure Declaration where
  info : NodeInfo
  keyword : Keyword
  declarators : List Declarator

/-- Any node. Programs are the only nodes that hold nodes of every kind, themselves included. -/
inductive Node where
  | program (info : NodeInfo) (body : List Node)
  | declaration (declaration : Declaration)
  | declarator (declarator : Declarator)
  | identifier (identifier : Identifier)
  | expression (expression : Expression)
  | literal (literal : Literal)

/-- A program by itself, not yet a node among others. -/
structure Program where
  info : NodeInfo
  body : List Node

/-- What all types of nodes have in common. -/
class NodeLike (α : Type) where
  info : α → NodeInfo
  /-- The label in the header of a dump. It comes from the type, not from the stored kind. -/
  label : α → String
  toNode : α → Node

export NodeLike (toNode)

namespace NodeLike

/-- The stored kind. -/
def kind {α : Type} [NodeLike α] (node : α) : NodeKind :=
  (info node).kind

def span {α : Type} [NodeLike α] (node : α) : Option Span :=
  (info node).span

end NodeLike

instance : NodeLike Identifier := ⟨(·.info), fun _ => "Identifier", .identifier⟩
instance : NodeLike Literal := ⟨(·.info), fun _ => "Literal", .literal⟩
instance : NodeLike Expression := ⟨(·.info), fun _ => "Expression", .expression⟩
instance : NodeLike Declarator := ⟨(·.info), fun _ => "VariableDeclarator", .declarator⟩
instance : NodeLike Declaration := ⟨(·.info), fun _ => "VariableDeclaration", .declaration⟩
instance : NodeLike Program := ⟨(·.info), fun _ => "Program", fun p => .program p.info p.body⟩

namespace Node

def info : Node → NodeInfo
  | .program info _ => info
  | .declaration d => d.info
  | .declarator d => d.info
  | .identifier i => i.info
  | .expression e => e.info
  | .literal l => l.info

def label : Node → String
  | .program info body => NodeLike.label (Program.mk info body)
  | .declaration d => NodeLike.label d
  | .declarator d => NodeLike.label d
  | .identifier i => NodeLike.label i
  | .expression e => NodeLike.label e
  | .literal l => NodeLike.label l

instance : NodeLike Node := ⟨info, label, id⟩

def kind (node : Node) : NodeKind :=
  node.info.kind

def span (node : Node) : Option Span :=
  node.info.span

def isDeclaration : Node → Bool
  | .declaration _ => true
  | _ => false

def declaration? : Node → Option Declaration
  | .declaration d => some d
  | _ => none

end Node

namespace Identifier

def named (name : String) : Identifier :=
  ⟨.ofKind .identifier, name⟩

instance : Inhabited Identifier := ⟨named ""⟩

def withSpan (start stop : UInt32) (identifier : Identifier) : Except Fault Identifier :=
  (identifier.info.withSpan start stop).map fun info => { identifier with info }

end Identifier

namespace Literal

def holding (value : Scalar) : Literal :=
  ⟨.ofKind .literal, value⟩

/-- Stands in for an initial value that was not given. -/
def undefined : Literal :=
  holding .undefined

instance : Inhabited Literal := ⟨undefined⟩

def withSpan (start stop : UInt32) (literal : Literal) : Except Fault Literal :=
  (literal.info.withSpan start stop).map fun info => { literal with info }

end Literal

namespace Expression

def unspecified : Expression :=
  ⟨.ofKind .expression⟩

instance : Inhabited Expression := ⟨unspecified⟩

def withSpan (start stop : UInt32) (expression : Expression) : Except Fault Expression :=
  (expression.info.withSpan start stop).map fun info => { expression with info }

end Expression

namespace Declarator

def binding (id : Identifier) (init : Literal) : Declarator :=
  ⟨.ofKind .declarator, id, init⟩

/-- A declarator without an initial value. -/
def uninitialized (id : Identifier) : Declarator :=
  binding id .undefined

instance : Inhabited Declarator := ⟨uninitialized default⟩

def withSpan (start stop : UInt32) (declarator : Declarator) : Except Fault Declarator :=
  (declarator.info.withSpan start stop).map fun info => { declarator with info }

end Declarator

namespace Declaration

def empty (keyword : Keyword) : Declaration :=
  ⟨.ofKind .declaration, keyword, []⟩

/-- Puts a declarator behind those already there. -/
def append (declaration : Declaration) (declarator : Declarator) : Declaration :=
  { declaration with declarators := declaration.declarators ++ [declarator] }

/-- The declaration with one declarator more, for building in a chain of steps. -/
def adding (declaration : Declaration) (declarator : Declarator) : Declaration :=
  declaration.append declarator

@[simp] theorem declarators_append (declaration : Declaration) (declarator : Declarator) :
    (declaration.append declarator).declarators = declaration.declarators ++ [declarator] := rfl

def size (declaration : Declaration) : Nat :=
  declaration.declarators.length

def isEmpty (declaration : Declaration) : Bool :=
  declaration.declarators.isEmpty

def withSpan (start stop : UInt32) (declaration : Declaration) : Except Fault Declaration :=
  (declaration.info.withSpan start stop).map fun info => { declaration with info }

end Declaration

namespace Program

def empty : Program :=
  ⟨.ofKind .program, []⟩

instance : Inhabited Program := ⟨empty⟩

/-- Puts a node of any kind behind those already there. -/
def append (program : Program) (node : Node) : Program :=
  { program with body := program.body ++ [node] }

/-- The program with one node more, for building in a chain of steps. -/
def adding (program : Program) (node : Node) : Program :=
  program.append node

@[simp] theorem body_append (program : Program) (node : Node) :
    (program.append node).body = program.body ++ [node] := rfl

def size (program : Program) : Nat :=
  program.body.length

def isEmpty (program : Program) : Bool :=
  program.body.isEmpty

def withSpan (start stop : UInt32) (program : Program) : Except Fault Program :=
  (program.info.withSpan start stop).map fun info => { program with info }

/-- The first declaration in the body. Declarations inside nested programs do not count. -/
def firstDeclaration? (program : Program) : Option Declaration :=
  program.body.findSome? Node.declaration?

end Program

namespace Node

def withSpan (start stop : UInt32) : Node → Except Fault Node
  | .program info body => (Program.withSpan start stop ⟨info, body⟩).map toNode
  | .declaration d => (d.withSpan start stop).map .declaration
  | .declarator d => (d.withSpan start stop).map .declarator
  | .identifier i => (i.withSpan start stop).map .identifier
  | .expression e => (e.withSpan start stop).map .expression
  | .literal l => (l.withSpan start stop).map .literal

instance : Inhabited Node := ⟨.expression default⟩

end Node

end TreeDump
