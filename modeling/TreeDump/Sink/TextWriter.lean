import TreeDump.Sink.Basic

namespace TreeDump

class TextWriter (ω : Type) where
  /-- Takes one piece of text. -/
  write : String → EStateM FormatError ω Unit

/-- Sends lines to a writer of text. -/
structure TextSink (ω : Type) where
  writer : ω

namespace TextSink

variable {ω : Type} [TextWriter ω]

def put (piece : String) : EStateM SinkError (TextSink ω) Unit := fun ⟨writer⟩ =>
  match TextWriter.write piece writer with
  | .ok () writer => .ok () ⟨writer⟩
  | .error _ writer => .error .format ⟨writer⟩

instance : Sink (TextSink ω) where
  accept line := do
    put line
    put "\n"

end TextSink

end TreeDump
