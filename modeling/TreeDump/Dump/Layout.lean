import TreeDump.Dump.Write

namespace TreeDump

/-- A line without its indentation, so many levels below the node it belongs to. -/
structure LayoutLine where
  offset : Nat
  text : String
deriving DecidableEq

namespace LayoutLine

/-- The line as part of a larger layout, in which its node stands further in. -/
def below (levels : Nat) (line : LayoutLine) : LayoutLine :=
  ⟨levels + line.offset, line.text⟩

/-- The line as a sink receives it. -/
def render (indent : Indent) (depth : Depth) (line : LayoutLine) : String :=
  indent.lead (depth.below line.offset) ++ line.text

end LayoutLine

/-- The header of a node. -/
def headerText {α : Type} [NodeLike α] (node : α) : String :=
  "[" ++ NodeLike.label node ++ "]:"

def Identifier.layout (i : Identifier) : List LayoutLine :=
  [⟨0, headerText i⟩, ⟨1, "type: " ++ i.info.kind.name⟩, ⟨1, "name: " ++ i.name⟩]

def Literal.layout (l : Literal) : List LayoutLine :=
  [⟨0, headerText l⟩, ⟨1, "type: " ++ l.info.kind.name⟩, ⟨1, "value: " ++ l.value.text⟩]

def Expression.layout (e : Expression) : List LayoutLine :=
  [⟨0, headerText e⟩, ⟨1, "type: " ++ e.info.kind.name⟩]

def Declarator.layout (d : Declarator) : List LayoutLine :=
  [⟨0, headerText d⟩, ⟨1, "type: " ++ d.info.kind.name⟩, ⟨1, "id:"⟩] ++
    d.id.layout.map (.below 2) ++ ⟨1, "init:"⟩ :: d.init.layout.map (.below 2)

def Declaration.layout (d : Declaration) : List LayoutLine :=
  [⟨0, headerText d⟩, ⟨0, "type: " ++ d.info.kind.name⟩, ⟨0, "kind: " ++ d.keyword.text⟩,
    ⟨0, "declarations:"⟩] ++
    d.declarators.flatMap fun declarator => declarator.layout.map (.below 1)

/-- The lines of a program above its body. -/
def Program.headLayout (p : Program) : List LayoutLine :=
  [⟨0, headerText p⟩, ⟨0, "type: " ++ NodeKind.program.name⟩, ⟨1, "body:"⟩]

namespace Node

mutual

def layout : Node → List LayoutLine
  | .program info body => Program.headLayout ⟨info, body⟩ ++ bodyLayout body
  | .declaration d => d.layout
  | .declarator d => d.layout
  | .identifier i => i.layout
  | .expression e => e.layout
  | .literal l => l.layout

/-- The lines of a program body. -/
def bodyLayout : List Node → List LayoutLine
  | [] => []
  | node :: nodes => (layout node).map (.below 2) ++ bodyLayout nodes

end

theorem bodyLayout_eq_flatMap (nodes : List Node) :
    bodyLayout nodes = nodes.flatMap fun node => node.layout.map (.below 2) := by
  induction nodes with
  | nil => rfl
  | cons node nodes ih => rw [bodyLayout, ih, List.flatMap_cons]

end Node

def Program.layout (p : Program) : List LayoutLine :=
  (toNode p).layout

/-- Writes lines one after the other. -/
def writeLayout {m : Type → Type} [Monad m] [MonadDump m] (depth : Depth) : List LayoutLine → m Unit
  | [] => pure ()
  | line :: lines => do
    MonadDump.writeLine (depth.below line.offset) line.text
    writeLayout depth lines

section

variable {m : Type → Type} [Monad m] [MonadDump m]

/-- Moving a layout further in is writing it from further in, even where the depth has no room. -/
theorem writeLayout_below (depth : Depth) (levels : Nat) (lines : List LayoutLine) :
    (writeLayout depth (lines.map (.below levels)) : m Unit) =
      writeLayout (depth.below levels) lines := by
  induction lines with
  | nil => rfl
  | cons line lines ih => simp [writeLayout, LayoutLine.below, Depth.below_below, ih]

variable [LawfulMonad m]

theorem writeLayout_append (depth : Depth) (first second : List LayoutLine) :
    (writeLayout depth (first ++ second) : m Unit) =
      (do writeLayout depth first; writeLayout depth second) := by
  induction first with
  | nil => simp [writeLayout]
  | cons line lines ih => simp [writeLayout, ih]

theorem Identifier.writeLines_eq_writeLayout (depth : Depth) (i : Identifier) :
    (i.writeLines depth : m Unit) = writeLayout depth i.layout := by
  simp [writeLines, layout, writeLayout, writeHeader, writeKind, headerText]

theorem Literal.writeLines_eq_writeLayout (depth : Depth) (l : Literal) :
    (l.writeLines depth : m Unit) = writeLayout depth l.layout := by
  simp [writeLines, layout, writeLayout, writeHeader, writeKind, headerText]

theorem Expression.writeLines_eq_writeLayout (depth : Depth) (e : Expression) :
    (e.writeLines depth : m Unit) = writeLayout depth e.layout := by
  simp [writeLines, layout, writeLayout, writeHeader, writeKind, headerText]

theorem Declarator.writeLines_eq_writeLayout (depth : Depth) (d : Declarator) :
    (d.writeLines depth : m Unit) = writeLayout depth d.layout := by
  simp [writeLines, layout, writeLayout, writeLayout_append, writeLayout_below,
    writeHeader, writeKind, headerText, Identifier.writeLines_eq_writeLayout,
    Literal.writeLines_eq_writeLayout]

theorem writeDeclarators_eq_writeLayout (depth : Depth) (ds : List Declarator) :
    (writeDeclarators depth ds : m Unit) = writeLayout depth (ds.flatMap (·.layout)) := by
  induction ds with
  | nil => rfl
  | cons d ds ih =>
    simp [writeDeclarators, writeLayout_append, Declarator.writeLines_eq_writeLayout, ih]

theorem Declaration.writeLines_eq_writeLayout (depth : Depth) (d : Declaration) :
    (d.writeLines depth : m Unit) = writeLayout depth d.layout := by
  have hbelow : (d.declarators.flatMap fun declarator => declarator.layout.map (LayoutLine.below 1)) =
      (d.declarators.flatMap (·.layout)).map (LayoutLine.below 1) := by
    rw [List.map_flatMap]
  simp [writeLines, layout, writeLayout, hbelow, writeLayout_below, writeHeader,
    writeKind, headerText, writeDeclarators_eq_writeLayout]

theorem Program.writeHead_eq_writeLayout (depth : Depth) (p : Program) :
    (p.writeHead depth : m Unit) = writeLayout depth p.headLayout := by
  simp [writeHead, headLayout, writeLayout, writeHeader, writeKind, headerText]

namespace Node

mutual

/-- Dumping a node is writing its layout, whatever it means to write a line. -/
theorem writeLines_eq_writeLayout (depth : Depth) (node : Node) :
    (node.writeLines depth : m Unit) = writeLayout depth node.layout := by
  cases node with
  | program info body =>
    simp [writeLines, layout, writeLayout_append, Program.writeHead_eq_writeLayout,
      writeBody_eq_writeLayout]
  | declaration d => exact d.writeLines_eq_writeLayout depth
  | declarator d => exact d.writeLines_eq_writeLayout depth
  | identifier i => exact i.writeLines_eq_writeLayout depth
  | expression e => exact e.writeLines_eq_writeLayout depth
  | literal l => exact l.writeLines_eq_writeLayout depth

theorem writeBody_eq_writeLayout (depth : Depth) (nodes : List Node) :
    (writeBody (depth.below 2) nodes : m Unit) = writeLayout depth (bodyLayout nodes) := by
  cases nodes with
  | nil => rfl
  | cons node nodes =>
    simp [writeBody, bodyLayout, writeLayout_append, writeLayout_below,
      writeLines_eq_writeLayout (depth.below 2) node, writeBody_eq_writeLayout depth nodes]

end

end Node

theorem Program.writeLines_eq_writeLayout (depth : Depth) (p : Program) :
    (p.writeLines depth : m Unit) = writeLayout depth p.layout := by
  simp [writeLines, layout, Node.layout, toNode, writeLayout_append, writeHead_eq_writeLayout,
    Node.writeBody_eq_writeLayout]

end

end TreeDump
