import TreeDump.Dump.Indent
import TreeDump.Log.Event
import TreeDump.Sink.Basic
import TreeDump.Tree.Node

namespace TreeDump

inductive DumpError where
  /-- The sink refused a line after so many others. -/
  | write (line : Nat) (source : SinkError)
  /-- Every line was taken, but the sink failed to pass them on. -/
  | flush (source : SinkError)
deriving DecidableEq

namespace DumpError

def message : DumpError → String
  | .write line _ => "failed to write dump line " ++ Nat.repr line
  | .flush _ => "failed to flush dump output"

def source : DumpError → SinkError
  | .write _ source => source
  | .flush source => source

end DumpError

/-- The state of dumps into one sink. Several dumps may follow each other; `lines` counts the lines
    of all of them. -/
structure DumpState (σ : Type) where
  sink : σ
  indent : Indent
  lines : Nat
  log : Array Event

/-- Nothing has been written to the sink yet. -/
def DumpState.start {σ : Type} (sink : σ) (indent : Indent) : DumpState σ :=
  ⟨sink, indent, 0, #[]⟩

/-- Computations that dump: they log events, know how many lines there are and write lines. -/
class MonadDump (m : Type → Type) where
  log : Event → m Unit
  /-- The number of lines written so far. -/
  linesWritten : m Nat
  writeLine : Depth → String → m Unit

/-- Dumps into a sink. The first refusal ends them with an error and leaves the sink, the number of
    lines and the log as they were at that moment. All indentation is taken to fit into a text;
    `CheckedM` looks out for the one that does not. -/
abbrev DumpM (σ : Type) := EStateM DumpError (DumpState σ)

namespace DumpM

variable {σ : Type}

def log (event : Event) : DumpM σ Unit :=
  modify fun ⟨sink, indent, lines, events⟩ => ⟨sink, indent, lines, events.push event⟩

def linesWritten : DumpM σ Nat := fun state =>
  .ok state.lines state

/-- Writes one line. A refusal is logged, and its error tells how many lines came before. -/
def writeLine [Sink σ] (depth : Depth) (text : String) : DumpM σ Unit :=
  fun ⟨sink, indent, lines, events⟩ =>
    match Sink.accept (indent.lead depth ++ text) sink with
    | .ok () sink => .ok () ⟨sink, indent, lines + 1, events⟩
    | .error source sink =>
      .error (.write lines source) ⟨sink, indent, lines, events.push (.rejected lines source)⟩

/-- Passes on what the sink holds back. -/
def flush [Sink σ] : DumpM σ Unit :=
  fun ⟨sink, indent, lines, events⟩ =>
    match Sink.flush sink with
    | .ok () sink => .ok () ⟨sink, indent, lines, events⟩
    | .error source sink => .error (.flush source) ⟨sink, indent, lines, events⟩

end DumpM

instance {σ : Type} [Sink σ] : MonadDump (DumpM σ) :=
  ⟨DumpM.log, DumpM.linesWritten, DumpM.writeLine⟩

section

variable {m : Type → Type} [MonadDump m]

/-- The first line of every node. -/
def writeHeader {α : Type} [NodeLike α] (depth : Depth) (node : α) : m Unit :=
  MonadDump.writeLine depth ("[" ++ NodeLike.label node ++ "]:")

def writeKind (depth : Depth) (kind : NodeKind) : m Unit :=
  MonadDump.writeLine depth ("type: " ++ kind.name)

end

end TreeDump
