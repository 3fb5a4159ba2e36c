import TreeDump.Sink.Basic

namespace TreeDump

/-- The answer to one offer of bytes. -/
inductive WriteAnswer where
  /-- That many of the offered bytes were taken, from the front. -/
  | took (count : Nat)
  /-- Nothing was taken, and the same offer may be made again. -/
  | interrupted
  | failed (error : DeviceError)
deriving DecidableEq

/-- A writer may interrupt, but each time it loses some of its `patience` with what it is offered;
    therefore it cannot interrupt the same offer forever. -/
class ByteWriter (ω : Type) where
  write : List UInt8 → StateM ω WriteAnswer
  flush : EStateM DeviceError ω Unit
  patience : List UInt8 → ω → Nat
  patience_lt_of_interrupted : ∀ {bytes : List UInt8} {before after : ω},
    write bytes before = (.interrupted, after) → patience bytes after < patience bytes before

namespace ByteWriter

variable {ω : Type} [ByteWriter ω]

/-- Offers the bytes until all are taken. No offer is made when there are none left, so no bytes at
    all always succeed. -/
def writeAll (bytes : List UInt8) (writer : ω) : EStateM.Result DeviceError ω Unit :=
  if _hdone : bytes = [] then
    .ok () writer
  else
    match _hanswer : ByteWriter.write bytes writer with
    | (.took 0, next) => .error .tookNothing next
    | (.took (count + 1), next) => writeAll (bytes.drop (count + 1)) next
    | (.interrupted, next) => writeAll bytes next
    | (.failed error, next) => .error error next
termination_by (bytes.length, patience bytes writer)
decreasing_by
  · have := List.length_pos_iff.mpr _hdone
    exact Prod.Lex.left _ _ (by simp only [List.length_drop]; omega)
  · exact Prod.Lex.right _ (patience_lt_of_interrupted _hanswer)

end ByteWriter

/-- The bytes of a text in UTF-8. -/
def utf8 (text : String) : List UInt8 :=
  text.toByteArray.data.toList

/-- Sends lines to a writer of bytes, the text first and then the line end. -/
structure ByteSink (ω : Type) where
  writer : ω

namespace ByteSink

variable {ω : Type} [ByteWriter ω]

def put (bytes : List UInt8) : EStateM SinkError (ByteSink ω) Unit := fun ⟨writer⟩ =>
  match ByteWriter.writeAll bytes writer with
  | .ok () writer => .ok () ⟨writer⟩
  | .error error writer => .error (.device error) ⟨writer⟩

/-- Flushes the writer underneath. -/
def flush : EStateM SinkError (ByteSink ω) Unit := fun ⟨writer⟩ =>
  match ByteWriter.flush writer with
  | .ok () writer => .ok () ⟨writer⟩
  | .error error writer => .error (.device error) ⟨writer⟩

instance : Sink (ByteSink ω) where
  accept line := do
    put (utf8 line)
    put (utf8 "\n")
  flush := flush

end ByteSink

end TreeDump
