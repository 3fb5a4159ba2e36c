import TreeDump.Proofs.Sink.Offering
import TreeDump.Sink.ByteWriter

namespace TreeDump

/-- The text of lines, each followed by its end. -/
def terminated (lines : List String) : String :=
  String.join (lines.map (· ++ "\n"))

@[simp] theorem terminated_nil : terminated [] = "" := rfl

theorem terminated_cons (line : String) (lines : List String) :
    terminated (line :: lines) = line ++ "\n" ++ terminated lines :=
  String.join_cons

theorem terminated_append (first second : List String) :
    terminated (first ++ second) = terminated first ++ terminated second := by
  rw [terminated, List.map_append, String.join_append, terminated, terminated]

theorem terminated_take_succ {lines : List String} {index : Nat} {line : String}
    (hline : lines[index]? = some line) :
    terminated (lines.take (index + 1)) = terminated (lines.take index) ++ (line ++ "\n") := by
  rw [List.take_add_one, hline, terminated_append, Option.toList_some, terminated_cons,
    terminated_nil, String.append_empty]

/-- A text keeps all lines, each with its end. -/
theorem Sink.takes_text (lines : List String) (text : String) :
    Sink.Takes lines text (text ++ terminated lines) := by
  induction lines generalizing text with
  | nil => simpa using Sink.Takes.nil text
  | cons line lines ih =>
    have hmore : text ++ terminated (line :: lines) =
        text ++ line ++ "\n" ++ terminated lines := by
      simp only [terminated_cons, String.append_assoc]
    rw [hmore]
    exact .cons rfl (ih (text ++ line ++ "\n"))

section Utf8

theorem utf8_append (first second : String) : utf8 (first ++ second) = utf8 first ++ utf8 second := by
  rw [utf8, String.toByteArray_append, ByteArray.data_append, Array.toList_append]
  rfl

theorem length_utf8 (text : String) : (utf8 text).length = text.utf8ByteSize := rfl

theorem utf8_inj {first second : String} : utf8 first = utf8 second ↔ first = second := by
  rw [utf8, utf8, Array.toList_inj, ← ByteArray.ext_iff, String.toByteArray_inj]

theorem utf8_terminated_eq_take_append (lines : List String) (count : Nat) :
    utf8 (terminated lines) =
      utf8 (terminated (lines.take count)) ++ utf8 (terminated (lines.drop count)) := by
  rw [← utf8_append, ← terminated_append, List.take_append_drop]

end Utf8

end TreeDump
