namespace TreeDump

/-- Mistakes of the caller. What a sink does is not among them. -/
inductive Fault where
  /-- A span was to be built that ends before it starts. -/
  | reversedSpan
  /-- The length was asked of a span that ends before it starts. -/
  | negativeLength
  /-- Blanks or indentation were asked for that are wider than any text can be. -/
  | indentTooWide
  /-- A piece of a text was asked for that begins or ends inside a character. -/
  | splitCharacter
deriving DecidableEq, Repr

def Fault.message : Fault → String
  | .reversedSpan => "assertion failed: end >= start"
  | .negativeLength => "attempt to subtract with overflow"
  | .indentTooWide => "capacity overflow"
  | .splitCharacter => "byte index is not a char boundary"

end TreeDump
