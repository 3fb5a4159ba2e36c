import Mathlib.Data.Nat.Find
import Mathlib.Order.Bounds.Defs
import TreeDump.Proofs.Sink.Terminated
import TreeDump.Sink.Bounded

namespace TreeDump

/-- So many bytes are no more than the capacity. Without a capacity any number is. -/
def Within (capacity : Option Nat) (size : Nat) : Prop :=
  ∀ most, capacity = some most → size ≤ most

namespace Within

@[simp] theorem none_iff (size : Nat) : Within none size ↔ True := by
  simp [Within]

@[simp] theorem some_iff (most size : Nat) : Within (some most) size ↔ size ≤ most := by
  simp [Within]

instance (capacity : Option Nat) (size : Nat) : Decidable (Within capacity size) :=
  match capacity with
  | none => decidable_of_iff True (none_iff size).symm
  | some most => decidable_of_iff (size ≤ most) (some_iff most size).symm

theorem mono {capacity : Option Nat} {size smaller : Nat} (hwithin : Within capacity size)
    (hle : smaller ≤ size) : Within capacity smaller :=
  fun most hmost => Nat.le_trans hle (hwithin most hmost)

/-- The capacity is used up if there is no room for another byte. -/
theorem eq_some_of_not_succ {capacity : Option Nat} {size : Nat} (hwithin : Within capacity size)
    (hnot : ¬ Within capacity (size + 1)) : capacity = some size := by
  cases capacity with
  | none => simp at hnot
  | some most =>
    rw [some_iff] at hwithin hnot
    rw [Nat.le_antisymm hwithin (Nat.le_of_not_lt hnot)]

end Within

section UpTo

variable {capacity : Option Nat} {first second : List UInt8}

theorem upTo_of_within (hwithin : Within capacity first.length) : upTo capacity first = first := by
  cases capacity with
  | none => rfl
  | some most => exact List.take_of_length_le (by simpa using hwithin)

/-- Nothing is kept of what comes after more than the capacity. -/
theorem upTo_append_of_not_within (hnot : ¬ Within capacity first.length) :
    upTo capacity (first ++ second) = upTo capacity first := by
  cases capacity with
  | none => simp at hnot
  | some most =>
    rw [Within.some_iff, Nat.not_le] at hnot
    exact List.take_append_of_le_length (Nat.le_of_lt hnot)

/-- Nothing is kept of what comes after exactly the capacity. -/
theorem upTo_append_of_full (hwithin : Within capacity first.length)
    (hfull : ¬ Within capacity (first.length + 1)) : upTo capacity (first ++ second) = first := by
  cases capacity with
  | none => simp at hfull
  | some most =>
    rw [Within.some_iff] at hwithin hfull
    exact List.take_left' (by omega)

theorem upTo_isPrefix (capacity : Option Nat) (bytes : List UInt8) : upTo capacity bytes <+: bytes := by
  cases capacity with
  | none => exact List.prefix_refl bytes
  | some most => exact List.take_prefix most bytes

theorem isPrefix_upTo (hwithin : Within capacity first.length) (hfront : first <+: second) :
    first <+: upTo capacity second := by
  cases capacity with
  | none => exact hfront
  | some most => exact List.prefix_take_iff.mpr ⟨hfront, by simpa using hwithin⟩

end UpTo

/-- So many lines from the front, each with its end, are within the capacity, and no more. -/
def Fitting (capacity : Option Nat) (lines : List String) : Nat → Prop :=
  IsGreatest {count | count ≤ lines.length ∧
    Within capacity (terminated (lines.take count)).utf8ByteSize}

theorem exists_fitting (capacity : Option Nat) (lines : List String) :
    ∃ count, Fitting capacity lines count := by
  let Fits (count : Nat) : Prop := Within capacity (terminated (lines.take count)).utf8ByteSize
  have hnone : Fits 0 := fun most _ => Nat.zero_le most
  refine ⟨Nat.findGreatest Fits lines.length, ⟨Nat.findGreatest_le _, ?_⟩, ?_⟩
  · exact Nat.findGreatest_spec (Nat.zero_le _) hnone
  · rintro count ⟨hle, hfits⟩
    exact Nat.le_findGreatest hle hfits

/-- Either all lines fit, or there is a first one that does not. -/
theorem Fitting.all_or_next {capacity : Option Nat} {lines : List String} {count : Nat}
    (hcount : Fitting capacity lines count) :
    count = lines.length ∧ Within capacity (terminated lines).utf8ByteSize ∨
      ∃ line, lines[count]? = some line ∧
        Within capacity (terminated (lines.take count)).utf8ByteSize ∧
        ¬ Within capacity (terminated (lines.take (count + 1))).utf8ByteSize := by
  obtain ⟨⟨hle, hwithin⟩, hgreatest⟩ := hcount
  obtain hlt | rfl := Nat.lt_or_eq_of_le hle
  · refine .inr ⟨lines[count], List.getElem?_eq_getElem hlt, hwithin, fun hmore => ?_⟩
    exact Nat.not_succ_le_self count (hgreatest ⟨hlt, hmore⟩)
  · rw [List.take_length] at hwithin
    exact .inl ⟨rfl, hwithin⟩

namespace Sink

variable {σ : Type} [Sink σ] {capacity : Option Nat} {Keeps : σ → List UInt8 → Prop}
  {residue : List UInt8 → String → List UInt8} {Cause : SinkError → Prop}

/-- A sink that takes a line exactly if the line fits with its end. `Keeps` tells the bytes that a
    state has kept, `residue` those that are kept after a line is refused, and `Cause` the errors with
    which lines are refused. -/
structure FillsUp (capacity : Option Nat) (Keeps : σ → List UInt8 → Prop)
    (residue : List UInt8 → String → List UInt8) (Cause : SinkError → Prop) : Prop where
  accept_of_within : ∀ {sink : σ} {kept : List UInt8} {line : String}, Keeps sink kept →
    Within capacity (kept ++ utf8 (line ++ "\n")).length →
    ∃ next, Sink.accept line sink = .ok () next ∧ Keeps next (kept ++ utf8 (line ++ "\n"))
  accept_of_not_within : ∀ {sink : σ} {kept : List UInt8} {line : String}, Keeps sink kept →
    ¬ Within capacity (kept ++ utf8 (line ++ "\n")).length →
    ∃ source next, Sink.accept line sink = .error source next ∧ Cause source ∧
      Keeps next (residue kept line)

/-- Lines that fit together are all taken. -/
theorem FillsUp.takes (hsink : FillsUp capacity Keeps residue Cause) {sink : σ} {kept : List UInt8}
    (hkeeps : Keeps sink kept) {lines : List String}
    (hwithin : Within capacity (kept ++ utf8 (terminated lines)).length) :
    ∃ last, Takes lines sink last ∧ Keeps last (kept ++ utf8 (terminated lines)) := by
  induction lines generalizing sink kept with
  | nil => exact ⟨sink, .nil sink, by simpa [utf8] using hkeeps⟩
  | cons line lines ih =>
    rw [terminated_cons, utf8_append, ← List.append_assoc] at hwithin ⊢
    have hfirst : Within capacity (kept ++ utf8 (line ++ "\n")).length :=
      hwithin.mono (List.prefix_append _ _).length_le
    obtain ⟨next, haccept, hnext⟩ := hsink.accept_of_within hkeeps hfirst
    obtain ⟨last, htakes, hlast⟩ := ih hnext hwithin
    exact ⟨last, .cons haccept htakes, hlast⟩

/-- The first line that does not fit is refused, and those before it are taken. -/
theorem FillsUp.refuses (hsink : FillsUp capacity Keeps residue Cause) {sink : σ}
    (hkeeps : Keeps sink []) {lines : List String} {index : Nat} {line : String}
    (hline : lines[index]? = some line)
    (hbefore : Within capacity (terminated (lines.take index)).utf8ByteSize)
    (hnot : ¬ Within capacity (terminated (lines.take (index + 1))).utf8ByteSize) :
    ∃ source last, Refuses lines sink index source last ∧ Cause source ∧
      Keeps last (residue (utf8 (terminated (lines.take index))) line) := by
  obtain ⟨before, htakes, hkept⟩ := hsink.takes hkeeps hbefore
  rw [terminated_take_succ hline, ← length_utf8, utf8_append] at hnot
  obtain ⟨source, last, hrefusal, hcause, hlast⟩ := hsink.accept_of_not_within hkept hnot
  exact ⟨source, last, ⟨line, before, hline, htakes, hrefusal⟩, hcause, hlast⟩

end Sink

end TreeDump
