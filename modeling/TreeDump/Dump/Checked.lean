import TreeDump.Dump.Write

namespace TreeDump

/-- Dumps that look out for indentation too wide for a text. It is a fault, which ends a dump at once:
    the sink, the number of lines and the log stay as they are, and nothing is said in the log. -/
abbrev CheckedM (σ : Type) := ExceptT Fault (DumpM σ)

/-- The outcome of such dumps: they come to their end, meet a fault or are refused a line. -/
abbrev CheckedResult (σ : Type) := EStateM.Result DumpError (DumpState σ) (Except Fault Unit)

namespace CheckedM

variable {σ : Type} [Sink σ]

def writeLine (depth : Depth) (text : String) : CheckedM σ Unit := do
  let state ← get
  if state.indent.Fits depth then
    (DumpM.writeLine depth text : DumpM σ Unit)
  else
    throw .indentTooWide

instance : MonadDump (CheckedM σ) :=
  ⟨fun event => liftM (DumpM.log event : DumpM σ Unit), liftM (DumpM.linesWritten : DumpM σ Nat),
    writeLine⟩

/-- Dumps a node and flushes the sink, unless the dump was stopped. -/
def dumpAndFlush {α : Type} [Dumpable α] (depth : Depth) (node : α) : CheckedM σ Unit := do
  announced depth node
  (DumpM.flush : DumpM σ Unit)

end CheckedM

end TreeDump
