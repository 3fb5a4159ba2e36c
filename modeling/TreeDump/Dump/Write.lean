import TreeDump.Dump.Basic

namespace TreeDump

open MonadDump

-- The walk is the same in all dumps; they differ in what it means to write a line.
variable {m : Type → Type} [Monad m] [MonadDump m]

def Identifier.writeLines (depth : Depth) (i : Identifier) : m Unit := do
  writeHeader depth i
  writeKind (depth.below 1) i.info.kind
  writeLine (depth.below 1) ("name: " ++ i.name)

def Literal.writeLines (depth : Depth) (l : Literal) : m Unit := do
  writeHeader depth l
  writeKind (depth.below 1) l.info.kind
  writeLine (depth.below 1) ("value: " ++ l.value.text)

def Expression.writeLines (depth : Depth) (e : Expression) : m Unit := do
  writeHeader depth e
  writeKind (depth.below 1) e.info.kind

def Declarator.writeLines (depth : Depth) (d : Declarator) : m Unit := do
  writeHeader depth d
  writeKind (depth.below 1) d.info.kind
  writeLine (depth.below 1) "id:"
  d.id.writeLines (depth.below 2)
  writeLine (depth.below 1) "init:"
  d.init.writeLines (depth.below 2)

/-- The declarators of a declaration, in order. -/
def writeDeclarators (depth : Depth) : List Declarator → m Unit
  | [] => pure ()
  | d :: ds => do
    d.writeLines depth
    writeDeclarators depth ds

def Declaration.writeLines (depth : Depth) (d : Declaration) : m Unit := do
  writeHeader depth d
  writeKind depth d.info.kind
  writeLine depth ("kind: " ++ d.keyword.text)
  writeLine depth "declarations:"
  writeDeclarators (depth.below 1) d.declarators

/-- The lines of a program above its body. They name the kind of programs, not the stored one. -/
def Program.writeHead (depth : Depth) (p : Program) : m Unit := do
  writeHeader depth p
  writeKind depth .program
  writeLine (depth.below 1) "body:"

namespace Node

mutual

def writeLines (depth : Depth) : Node → m Unit
  | .program info body => do
    Program.writeHead depth ⟨info, body⟩
    writeBody (depth.below 2) body
  | .declaration d => d.writeLines depth
  | .declarator d => d.writeLines depth
  | .identifier i => i.writeLines depth
  | .expression e => e.writeLines depth
  | .literal l => l.writeLines depth

/-- The nodes of a program body, in order. -/
def writeBody (depth : Depth) : List Node → m Unit
  | [] => pure ()
  | node :: nodes => do
    writeLines depth node
    writeBody depth nodes

end

end Node

def Program.writeLines (depth : Depth) (p : Program) : m Unit := do
  p.writeHead depth
  Node.writeBody (depth.below 2) p.body

/-- A program is written alike by itself and as a node. -/
theorem Program.writeLines_toNode (depth : Depth) (p : Program) :
    (Node.writeLines depth (toNode p) : m Unit) = p.writeLines depth := rfl

/-- Types of nodes that can be dumped. The type a node is given in makes no difference to its lines. -/
class Dumpable (α : Type) extends NodeLike α where
  writeLines : {m : Type → Type} → [Monad m] → [MonadDump m] → Depth → α → m Unit
  writeLines_toNode : ∀ {m : Type → Type} [Monad m] [MonadDump m] (depth : Depth) (node : α),
    (Node.writeLines depth (toNode node) : m Unit) = writeLines depth node

instance : Dumpable Identifier := ⟨Identifier.writeLines, fun _ _ => rfl⟩
instance : Dumpable Literal := ⟨Literal.writeLines, fun _ _ => rfl⟩
instance : Dumpable Expression := ⟨Expression.writeLines, fun _ _ => rfl⟩
instance : Dumpable Declarator := ⟨Declarator.writeLines, fun _ _ => rfl⟩
instance : Dumpable Declaration := ⟨Declaration.writeLines, fun _ _ => rfl⟩
instance : Dumpable Program := ⟨Program.writeLines, Program.writeLines_toNode⟩
instance : Dumpable Node := ⟨Node.writeLines, fun _ _ => rfl⟩

/-- Writes a node and logs the start and, unless it is stopped before, the end. -/
def announced {α : Type} [Dumpable α] (depth : Depth) (node : α) : m Unit := do
  log (.started (NodeLike.kind node) depth)
  let start ← linesWritten
  Dumpable.writeLines depth node
  let stop ← linesWritten
  log (.finished (NodeLike.kind node) (stop - start))

/-- Dumps a node, as long as the sink takes its lines. -/
def dump {σ α : Type} [Sink σ] [Dumpable α] (depth : Depth) (node : α) : DumpM σ Unit :=
  announced depth node

end TreeDump
