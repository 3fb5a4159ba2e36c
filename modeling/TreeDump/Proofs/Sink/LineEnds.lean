import Mathlib.Algebra.GroupWithZero.Nat
import TreeDump.Proofs.Sink.Terminated

namespace TreeDump

/-- The number of line ends in a text. -/
def lineEnds (text : String) : Nat :=
  text.toList.count '\n'

@[simp] theorem lineEnds_append (first second : String) :
    lineEnds (first ++ second) = lineEnds first + lineEnds second := by
  rw [lineEnds, String.toList_append, List.count_append, lineEnds, lineEnds]

theorem lineEnds_eq_zero_iff {text : String} : lineEnds text = 0 ↔ '\n' ∉ text.toList :=
  List.count_eq_zero

theorem lineEnds_of_not_mem {text : String} (hwhole : '\n' ∉ text.toList) : lineEnds text = 0 :=
  lineEnds_eq_zero_iff.mpr hwhole

theorem sum_lineEnds_eq_zero_iff {texts : List String} :
    (texts.map lineEnds).sum = 0 ↔ ∀ text ∈ texts, '\n' ∉ text.toList := by
  rw [List.sum_eq_zero_iff_forall_eq_nat, List.forall_mem_map]
  exact forall₂_congr fun _ _ => lineEnds_eq_zero_iff

/-- Every line has its end, beside those that are in it. -/
theorem lineEnds_terminated (lines : List String) :
    lineEnds (terminated lines) = lines.length + (lines.map lineEnds).sum := by
  induction lines with
  | nil => rfl
  | cons line lines ih =>
    have hend : lineEnds "\n" = 1 := by decide
    rw [terminated_cons, lineEnds_append, lineEnds_append, ih, hend, List.length_cons, List.map_cons,
      List.sum_cons]
    omega

theorem length_splitOn (c : Char) (text : List Char) :
    (text.splitOn c).length = text.count c + 1 := by
  induction text with
  | nil => rfl
  | cons first text ih =>
    rw [List.splitOn_cons_eq_if_modifyHead, List.count_cons]
    split <;> simp [ih]

/-- The lines can be read back exactly if none of them holds a line end. -/
theorem splitOn_terminated_iff {lines : List String} :
    (terminated lines).toList.splitOn '\n' = lines.map String.toList ++ [[]] ↔
      ∀ line ∈ lines, '\n' ∉ line.toList := by
  constructor
  · intro hsplit
    have hlength := congrArg List.length hsplit
    rw [length_splitOn, ← lineEnds, lineEnds_terminated, List.length_append, List.length_map] at hlength
    rw [← sum_lineEnds_eq_zero_iff]
    simpa using hlength
  · intro hwhole
    induction lines with
    | nil => rfl
    | cons line lines ih =>
      obtain ⟨hline, hlines⟩ := List.forall_mem_cons.mp hwhole
      have htext : (terminated (line :: lines)).toList =
          line.toList ++ '\n' :: (terminated lines).toList := by
        simp [terminated_cons]
      rw [htext, List.splitOn_append_cons_self_of_not_mem hline, ih hlines]
      rfl

end TreeDump
