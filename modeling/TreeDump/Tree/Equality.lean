import TreeDump.Tree.Node

namespace TreeDump

def Identifier.equal (a b : Identifier) : Bool :=
  a.info == b.info && a.name == b.name

instance : BEq Identifier := ⟨Identifier.equal⟩

def Literal.equal (a b : Literal) : Bool :=
  a.info == b.info && a.value == b.value

instance : BEq Literal := ⟨Literal.equal⟩

def Expression.equal (a b : Expression) : Bool :=
  a.info == b.info

instance : BEq Expression := ⟨Expression.equal⟩

def Declarator.equal (a b : Declarator) : Bool :=
  a.info == b.info && a.id == b.id && a.init == b.init

instance : BEq Declarator := ⟨Declarator.equal⟩

def Declaration.equal (a b : Declaration) : Bool :=
  a.info == b.info && a.keyword == b.keyword && a.declarators == b.declarators

instance : BEq Declaration := ⟨Declaration.equal⟩

namespace Node

mutual

def equal : Node → Node → Bool
  | .program info body, .program info' body' => info == info' && equalBodies body body'
  | .declaration a, .declaration b => a == b
  | .declarator a, .declarator b => a == b
  | .identifier a, .identifier b => a == b
  | .expression a, .expression b => a == b
  | .literal a, .literal b => a == b
  | _, _ => false

/-- Bodies are equal if they have equal nodes in the same order. -/
def equalBodies : List Node → List Node → Bool
  | [], [] => true
  | a :: as, b :: bs => equal a b && equalBodies as bs
  | _, _ => false

end

instance : BEq Node := ⟨equal⟩

end Node

end TreeDump
