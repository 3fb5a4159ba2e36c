import TreeDump.Dump.Write
import TreeDump.Sink.ByteWriter

namespace TreeDump

/-- The outcome of dumps, with the state they leave. -/
abbrev DumpResult (σ : Type) := EStateM.Result DumpError (DumpState σ) Unit

namespace DumpResult

variable {σ : Type}

/-- The state that is left, whether or not the sink refused a line. -/
def state : DumpResult σ → DumpState σ
  | .ok _ state => state
  | .error _ state => state

def error? : DumpResult σ → Option DumpError
  | .ok _ _ => none
  | .error error _ => some error

end DumpResult

/-- Dumps a node into a sink with the standard indentation. -/
def dumpInto {σ α : Type} [Sink σ] [Dumpable α] (sink : σ) (depth : Depth) (node : α) :
    DumpResult σ :=
  dump depth node (.start sink .standard)

/-- Dumps a node into a text that is empty at first. A text refuses nothing. -/
def dumpToText {α : Type} [Dumpable α] (depth : Depth) (node : α) : DumpResult String :=
  dumpInto "" depth node

/-- Dumps a node and flushes the sink, unless it refused a line. -/
def dumpAndFlush {σ α : Type} [Sink σ] [Dumpable α] (depth : Depth) (node : α) : DumpM σ Unit := do
  dump depth node
  DumpM.flush

/-- Dumps a node to a device, with the standard indentation and from the left margin. -/
def dumpToDevice {ω α : Type} [ByteWriter ω] [Dumpable α] (device : ω) (node : α) :
    DumpResult (ByteSink ω) :=
  dumpAndFlush .zero node (.start ⟨device⟩ .standard)

end TreeDump
