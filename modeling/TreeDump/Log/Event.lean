import TreeDump.Dump.Depth
import TreeDump.Kind
import TreeDump.Sink.Error

namespace TreeDump

/-- Levels from the gravest to the least. -/
inductive Level where
  | error
  | warn
  | info
  | debug
  | trace
deriving DecidableEq, Repr

namespace Level

/-- Zero is left for "no level at all". -/
def rank : Level → Nat
  | .error => 1
  | .warn => 2
  | .info => 3
  | .debug => 4
  | .trace => 5

def name : Level → String
  | .error => "ERROR"
  | .warn => "WARN"
  | .info => "INFO"
  | .debug => "DEBUG"
  | .trace => "TRACE"

end Level

inductive Event where
  /-- The sample tree was built. -/
  | built (nodes : Nat)
  | started (kind : NodeKind) (depth : Depth)
  /-- A dump came to its end. Only the lines of that dump count. -/
  | finished (kind : NodeKind) (lines : Nat)
  /-- A sink refused a line. All lines before it count. -/
  | rejected (line : Nat) (error : SinkError)
deriving DecidableEq

namespace Event

def level : Event → Level
  | .built _ => .info
  | .started _ _ => .debug
  | .finished _ _ => .debug
  | .rejected _ _ => .warn

def target : Event → String
  | .built _ => "falsy"
  | .started _ _ => "falsy_dump"
  | .finished _ _ => "falsy_dump"
  | .rejected _ _ => "falsy_dump"

/-- The names of an event's fields. The message is a field too. -/
def fields : Event → List String
  | .built _ => ["message", "nodes"]
  | .started _ _ => ["message", "kind", "depth"]
  | .finished _ _ => ["message", "kind", "lines"]
  | .rejected _ _ => ["message", "line", "error"]

def message : Event → String
  | .built nodes => "built sample tree nodes=" ++ Nat.repr nodes
  | .started kind depth => "dump started kind=" ++ kind.name ++ " depth=" ++ Nat.repr depth.level
  | .finished kind lines => "dump finished kind=" ++ kind.name ++ " lines=" ++ Nat.repr lines
  | .rejected line error =>
    "sink rejected dump line line=" ++ Nat.repr line ++ " error=" ++ error.message

/-- The line of the log, without a time. -/
def text (event : Event) : String :=
  event.level.name ++ " " ++ event.target ++ ": " ++ event.message

end Event

end TreeDump
