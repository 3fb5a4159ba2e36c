import TreeDump.Sink.Error

namespace TreeDump

/-- States that take lines one at a time. They may refuse any line, and a refusal may change them too. -/
class Sink (σ : Type) where
  /-- Takes one line, which comes without a line end. -/
  accept : String → EStateM SinkError σ Unit
  /-- Passes on what is held back. Most sinks hold nothing back. -/
  flush : EStateM SinkError σ Unit := pure ()

/-- Keeps each line by itself and refuses none. -/
instance : Sink (Array String) where
  accept line := modify (·.push line)

/-- Keeps the lines as one text, each followed by a line end, and refuses none. -/
instance : Sink String where
  accept line := modify fun text => text ++ line ++ "\n"

end TreeDump
