namespace TreeDump

/-- A raw value that is in no case of the enumeration it was meant for. -/
structure InvalidValue where
  enumeration : String
  value : String
deriving DecidableEq

def InvalidValue.message (e : InvalidValue) : String :=
  "invalid " ++ e.enumeration ++ " value: " ++ e.value

/-- The kind of a node, from the root of a tree down to its leaves. -/
inductive NodeKind where
  | program
  | declaration
  | declarator
  | identifier
  | expression
  | literal
deriving DecidableEq, Repr, Inhabited

namespace NodeKind

def all : List NodeKind :=
  [.program, .declaration, .declarator, .identifier, .expression, .literal]

/-- Raw values count from one. -/
def raw : NodeKind → Nat
  | .program => 1
  | .declaration => 2
  | .declarator => 3
  | .identifier => 4
  | .expression => 5
  | .literal => 6

def name : NodeKind → String
  | .program => "Program"
  | .declaration => "VariableDeclaration"
  | .declarator => "VariableDeclarator"
  | .identifier => "Identifier"
  | .expression => "Expression"
  | .literal => "Literal"

def ofRaw? (value : UInt16) : Except InvalidValue NodeKind :=
  match all.find? (fun kind => kind.raw == value.toNat) with
  | some kind => .ok kind
  | none => .error ⟨"NodeKind", Nat.repr value.toNat⟩

theorem ofRaw?_raw (kind : NodeKind) : ofRaw? (UInt16.ofNat kind.raw) = .ok kind := by
  cases kind <;> rfl

/-- Kinds are ordered by their raw values. -/
instance : Ord NodeKind := ⟨fun a b => compare a.raw b.raw⟩

/-- The position of a kind in `all`. -/
def index (kind : NodeKind) : Nat :=
  all.idxOf kind

end NodeKind

/-- The keyword that introduces a declaration. -/
inductive Keyword where
  | letWord
  | constWord
  | varWord
deriving DecidableEq, Repr, Inhabited

namespace Keyword

def all : List Keyword :=
  [.letWord, .constWord, .varWord]

/-- Raw values count from zero. -/
def raw : Keyword → Nat
  | .letWord => 0
  | .constWord => 1
  | .varWord => 2

/-- The keyword as it stands in source text. -/
def text : Keyword → String
  | .letWord => "let"
  | .constWord => "const"
  | .varWord => "var"

/-- The name under inspection. -/
def inspect : Keyword → String
  | .letWord => "Let"
  | .constWord => "Const"
  | .varWord => "Var"

def ofRaw? (value : UInt8) : Except InvalidValue Keyword :=
  match all.find? (fun keyword => keyword.raw == value.toNat) with
  | some keyword => .ok keyword
  | none => .error ⟨"DeclarationKind", Nat.repr value.toNat⟩

/-- Reads a keyword; case and surrounding blanks matter. -/
def ofText? (text : String) : Except InvalidValue Keyword :=
  match all.find? (fun keyword => keyword.text == text) with
  | some keyword => .ok keyword
  | none => .error ⟨"DeclarationKind", text⟩

theorem ofText?_text (keyword : Keyword) : ofText? keyword.text = .ok keyword := by
  cases keyword <;> simp [ofText?, all, Keyword.text]

/-- The position of a keyword in `all`. -/
def index (keyword : Keyword) : Nat :=
  all.idxOf keyword

end Keyword

end TreeDump
