import TreeDump.Dump.Depth
import TreeDump.Fault

namespace TreeDump

/-- The text of one level. It may be empty, and it need not be blank. -/
structure Indent where
  unit : String

namespace Indent

/-- Two blanks for each level. -/
def standard : Indent :=
  ⟨"  "⟩

/-- The most bytes that a text can have, and so the widest run of blanks. -/
def maxWidth : Nat := Nat.pow 2 63 - 1

/-- So many blanks for each level. -/
def ofWidth (width : Nat) : Except Fault Indent :=
  if width ≤ maxWidth then .ok ⟨String.ofList (List.replicate width ' ')⟩ else .error .indentTooWide

/-- The indentation at a depth. An empty unit is not repeated, since that could take long. -/
def lead (indent : Indent) (depth : Depth) : String :=
  if indent.unit.isEmpty then "" else depth.level.repeat (· ++ indent.unit) ""

/-- The indentation is the unit repeated, also where the unit is empty. -/
theorem lead_eq_repeat (indent : Indent) (depth : Depth) :
    indent.lead depth = depth.level.repeat (· ++ indent.unit) "" := by
  unfold lead
  split
  next hempty =>
    have hunit : indent.unit = "" := String.isEmpty_iff.mp hempty
    have hrepeat : ∀ n : Nat, n.repeat (· ++ "") "" = "" := by
      intro n
      induction n with
      | zero => rfl
      | succ n ih => rw [Nat.repeat, ih]; rfl
    rw [hunit, hrepeat]
  next => rfl

theorem utf8ByteSize_lead (indent : Indent) (depth : Depth) :
    (indent.lead depth).utf8ByteSize = indent.unit.utf8ByteSize * depth.level := by
  rw [lead_eq_repeat]
  induction depth.level with
  | zero => simp [Nat.repeat]
  | succ level ih => rw [Nat.repeat, String.utf8ByteSize_append, ih, Nat.mul_succ]

/-- The indentation at a depth is not longer than a text can be. There is taken to be memory for any
    text that is not. -/
def Fits (indent : Indent) (depth : Depth) : Prop :=
  (indent.lead depth).utf8ByteSize ≤ maxWidth

-- The indentation is measured without being put together, which it cannot be where it does not fit.
instance (indent : Indent) (depth : Depth) : Decidable (indent.Fits depth) :=
  decidable_of_iff (indent.unit.utf8ByteSize * depth.level ≤ maxWidth)
    (by rw [Fits, utf8ByteSize_lead])

/-- Blanks fit if there are not too many of them altogether. -/
theorem fits_iff_of_ofWidth {width : Nat} {indent : Indent} (hindent : ofWidth width = .ok indent)
    (depth : Depth) : indent.Fits depth ↔ width * depth.level ≤ maxWidth := by
  have hblanks : ∀ n : Nat, (String.ofList (List.replicate n ' ')).utf8ByteSize = n := by
    intro n
    induction n with
    | zero => rfl
    | succ n ih =>
      have hblank : (String.singleton ' ').utf8ByteSize = 1 := rfl
      rw [List.replicate_succ, String.ofList_cons, String.utf8ByteSize_append, ih, hblank,
        Nat.add_comm]
  rw [ofWidth] at hindent
  split at hindent
  next =>
    cases hindent
    rw [Fits, utf8ByteSize_lead, hblanks]
  next => cases hindent

theorem exists_ofWidth_eq_ok {width : Nat} (hwidth : width ≤ maxWidth) :
    ∃ indent, ofWidth width = .ok indent :=
  ⟨_, if_pos hwidth⟩

/-- What fits at some depth fits further out. -/
theorem Fits.of_le {indent : Indent} {depth further : Depth} (hfits : indent.Fits further)
    (hle : depth.level ≤ further.level) : indent.Fits depth := by
  rw [Fits, utf8ByteSize_lead] at hfits ⊢
  exact Nat.le_trans (Nat.mul_le_mul_left _ hle) hfits

end Indent

end TreeDump
