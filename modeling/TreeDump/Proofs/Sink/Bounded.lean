import TreeDump.Proofs.Sink.Writers

namespace TreeDump

namespace BoundedBytes

variable {w next : BoundedBytes} {bytes : List UInt8}

/-- What the writer has kept, as long as it takes at least one byte at a time. -/
structure Keeps (capacity : Option Nat) (w : BoundedBytes) (kept : List UInt8) : Prop where
  capacity_eq : w.capacity = capacity
  chunk_ne_zero : w.chunk ≠ some 0
  kept_eq : w.kept.data.toList = kept
  within : Within capacity kept.length

theorem portion_isPrefix (w : BoundedBytes) (bytes : List UInt8) : w.portion bytes <+: bytes :=
  (upTo_isPrefix _ _).trans (upTo_isPrefix _ _)

variable {capacity : Option Nat} {kept : List UInt8}

theorem Keeps.within_portion (hkeeps : Keeps capacity w kept) (bytes : List UInt8) :
    Within capacity (kept ++ w.portion bytes).length := by
  obtain ⟨rfl, _, rfl, hwithin⟩ := hkeeps
  intro most hmost
  have hle := hwithin most hmost
  have hsize : w.kept.size = w.kept.data.toList.length := rfl
  rw [portion, hmost, Option.map_some, upTo, List.length_append, List.length_take, hsize]
  omega

theorem upTo_eq_nil_iff {bound : Option Nat} (hbytes : bytes ≠ []) :
    upTo bound bytes = [] ↔ bound = some 0 := by
  cases bound with
  | none => simp [upTo, hbytes]
  | some most => simp [upTo, hbytes]

/-- The writer takes nothing of an offer only if it is full. -/
theorem Keeps.full_of_portion_eq_nil (hkeeps : Keeps capacity w kept) (hbytes : bytes ≠ [])
    (hnone : w.portion bytes = []) : ¬ Within capacity (kept.length + 1) := by
  obtain ⟨rfl, hchunk, rfl, _⟩ := hkeeps
  have hoffer : upTo w.chunk bytes ≠ [] := fun hnil => hchunk ((upTo_eq_nil_iff hbytes).mp hnil)
  obtain ⟨most, hmost, hroom⟩ := Option.map_eq_some_iff.mp ((upTo_eq_nil_iff hoffer).mp hnone)
  have hsize : w.kept.size = w.kept.data.toList.length := rfl
  intro hwithin
  have hle := hwithin most hmost
  omega

/-- The chunks and the interruptions make no difference to what the writer comes to keep. -/
theorem fillsUp (capacity : Option Nat) : ByteWriter.FillsUp capacity (Keeps capacity) where
  within hkeeps := hkeeps.within
  answers := by
    rintro bytes kept w _ hbytes hkeeps rfl
    have ⟨hcapacity, hchunk, hkept, hwithin⟩ := hkeeps
    change ByteWriter.Answers capacity (Keeps capacity) kept bytes (w.write bytes)
    unfold write
    split
    · exact ⟨hcapacity, hchunk, hkept, hwithin⟩
    · split
      next hnone =>
        have hfull := hkeeps.full_of_portion_eq_nil hbytes hnone
        cases w.full with
        | tookNothing => exact ⟨hfull, hcapacity, hchunk, hkept, hwithin⟩
        | failed error => exact ⟨hfull, hcapacity, hchunk, hkept, hwithin⟩
      next taken hsome =>
        have hfront := w.portion_isPrefix bytes
        have hroom := hkeeps.within_portion bytes
        generalize w.portion bytes = portion at hfront hroom hsome
        obtain _ | ⟨first, rest⟩ := portion
        · exact absurd rfl hsome
        · have htake : bytes.take (rest.length + 1) = first :: rest :=
            (List.prefix_iff_eq_take.mp hfront).symm
          refine ⟨hfront.length_le, hcapacity, hchunk, ?_, ?_⟩
          · rw [htake, ByteArray.data_append, Array.toList_append, hkept]
          · rwa [htake]

end BoundedBytes

namespace BoundedText

/-- What the writer has kept. -/
def Keeps (capacity : Option Nat) (w : BoundedText) (kept : String) : Prop :=
  w = ⟨capacity, kept⟩

theorem fits_iff {capacity : Option Nat} {kept piece : String} :
    Fits capacity kept piece ↔ Within capacity (kept ++ piece).utf8ByteSize := by
  rw [String.utf8ByteSize_append]
  rfl

theorem keepsWhole (capacity : Option Nat) : TextWriter.KeepsWhole capacity (Keeps capacity) where
  write_of_within := by
    rintro _ kept piece rfl hwithin
    exact ⟨_, if_pos (fits_iff.mpr hwithin), rfl⟩
  write_of_not_within := by
    rintro _ kept piece rfl hnot
    exact ⟨_, if_neg (mt fits_iff.mp hnot), rfl⟩

end BoundedText

end TreeDump
