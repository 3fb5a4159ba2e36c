import TreeDump.Proofs.Sink.Capacity
import TreeDump.Sink.TextWriter

namespace TreeDump

namespace ByteWriter

variable {ω : Type} [ByteWriter ω] {bytes kept : List UInt8} {writer next : ω}

theorem writeAll_nil (writer : ω) : writeAll [] writer = .ok () writer := by
  rw [writeAll, dif_pos rfl]

/-- The first answer decides how the offers go on. -/
theorem writeAll_eq (hbytes : bytes ≠ []) (writer : ω) :
    writeAll bytes writer =
      match write bytes writer with
      | (.took 0, next) => .error .tookNothing next
      | (.took (count + 1), next) => writeAll (bytes.drop (count + 1)) next
      | (.interrupted, next) => writeAll bytes next
      | (.failed error, next) => .error error next := by
  rw [writeAll, dif_neg hbytes]
  split <;> rename_i hanswer <;> rw [hanswer]

/-- What one answer to an offer says of a writer that fills up. It has kept what it took of the offer
    behind the bytes from before, and nothing if it interrupted or failed; it only fails, or takes no
    byte at all, if the capacity is used up. -/
def Answers (capacity : Option Nat) (Keeps : ω → List UInt8 → Prop) (kept bytes : List UInt8) :
    WriteAnswer × ω → Prop
  | (.took 0, next) => ¬ Within capacity (kept.length + 1) ∧ Keeps next kept
  | (.took (count + 1), next) =>
    count + 1 ≤ bytes.length ∧ Keeps next (kept ++ bytes.take (count + 1))
  | (.interrupted, next) => Keeps next kept
  | (.failed _, next) => ¬ Within capacity (kept.length + 1) ∧ Keeps next kept

/-- A writer that fills up to its capacity. `Keeps` tells the bytes that a state has kept. -/
structure FillsUp (capacity : Option Nat) (Keeps : ω → List UInt8 → Prop) : Prop where
  within : ∀ {writer : ω} {kept : List UInt8}, Keeps writer kept → Within capacity kept.length
  answers : ∀ {bytes kept : List UInt8} {writer : ω} {answer : WriteAnswer × ω}, bytes ≠ [] →
    Keeps writer kept → write bytes writer = answer → Answers capacity Keeps kept bytes answer

variable {capacity : Option Nat} {Keeps : ω → List UInt8 → Prop}

/-- The bytes are all kept behind those from before, or so many of them that the capacity is used
    up. -/
def Writes (capacity : Option Nat) (Keeps : ω → List UInt8 → Prop) (kept bytes : List UInt8) :
    EStateM.Result DeviceError ω Unit → Prop
  | .ok () next => Within capacity (kept ++ bytes).length ∧ Keeps next (kept ++ bytes)
  | .error _ next =>
    ¬ Within capacity (kept ++ bytes).length ∧ Keeps next (upTo capacity (kept ++ bytes))

/-- A writer that is full fails without keeping anything more. -/
theorem FillsUp.writes_of_full (hwriter : FillsUp capacity Keeps) (hbytes : bytes ≠ [])
    (hkept : Keeps next kept) (hfull : ¬ Within capacity (kept.length + 1)) (error : DeviceError) :
    Writes capacity Keeps kept bytes (.error error next) := by
  have hmore : kept.length + 1 ≤ (kept ++ bytes).length := by
    have hpositive := List.length_pos_iff.mpr hbytes
    rw [List.length_append]
    omega
  refine ⟨fun hwithin => hfull (hwithin.mono hmore), ?_⟩
  rwa [upTo_append_of_full (hwriter.within hkept) hfull]

/-- The induction is on the offers that are made: what a partial one has taken counts as kept before
    the next. -/
theorem FillsUp.writes_writeAll (hwriter : FillsUp capacity Keeps) (bytes : List UInt8) {writer : ω}
    {kept : List UInt8} (hkept : Keeps writer kept) :
    Writes capacity Keeps kept bytes (writeAll bytes writer) := by
  induction bytes, writer using ByteWriter.writeAll.induct generalizing kept with
  | case1 writer =>
    rw [writeAll_nil, Writes, List.append_nil]
    exact ⟨hwriter.within hkept, hkept⟩
  | case2 bytes writer hbytes next hanswer =>
    obtain ⟨hfull, hnext⟩ := hwriter.answers hbytes hkept hanswer
    rw [writeAll_eq hbytes, hanswer]
    exact hwriter.writes_of_full hbytes hnext hfull _
  | case3 bytes writer hbytes count next hanswer ih =>
    obtain ⟨_, hnext⟩ := hwriter.answers hbytes hkept hanswer
    have hwrites := ih hnext
    rw [writeAll_eq hbytes, hanswer]
    unfold Writes at hwrites ⊢
    rwa [List.append_assoc, List.take_append_drop] at hwrites
  | case4 bytes writer hbytes next hanswer ih =>
    have hnext : Keeps next kept := hwriter.answers hbytes hkept hanswer
    rw [writeAll_eq hbytes, hanswer]
    exact ih hnext
  | case5 bytes writer hbytes error next hanswer =>
    obtain ⟨hfull, hnext⟩ := hwriter.answers hbytes hkept hanswer
    rw [writeAll_eq hbytes, hanswer]
    exact hwriter.writes_of_full hbytes hnext hfull error

end ByteWriter

namespace ByteSink

variable {ω : Type} [ByteWriter ω] {capacity : Option Nat} {Keeps : ω → List UInt8 → Prop}
  {sink : ByteSink ω} {kept : List UInt8}

theorem put_ok_or_error (hwriter : ByteWriter.FillsUp capacity Keeps) (hkept : Keeps sink.writer kept)
    (bytes : List UInt8) :
    (Within capacity (kept ++ bytes).length ∧
        ∃ next, put bytes sink = .ok () next ∧ Keeps next.writer (kept ++ bytes)) ∨
      ¬ Within capacity (kept ++ bytes).length ∧
        ∃ error next, put bytes sink = .error (.device error) next ∧
          Keeps next.writer (upTo capacity (kept ++ bytes)) := by
  obtain ⟨writer⟩ := sink
  have hwrites := hwriter.writes_writeAll bytes hkept
  unfold put
  cases hresult : ByteWriter.writeAll bytes writer with
  | ok _ next =>
    rw [hresult] at hwrites
    exact .inl ⟨hwrites.1, ⟨next⟩, by simp only [hresult], hwrites.2⟩
  | error error next =>
    rw [hresult] at hwrites
    exact .inr ⟨hwrites.1, error, ⟨next⟩, by simp only [hresult], hwrites.2⟩

theorem accept_eq (line : String) (sink : ByteSink ω) :
    Sink.accept line sink =
      match put (utf8 line) sink with
      | .ok _ next => put (utf8 "\n") next
      | .error source next => .error source next := by
  cases hput : put (utf8 line) sink <;> simp only [Sink.accept, bind, EStateM.bind, hput]

/-- What is kept once a line is refused: the line as far as it fits, be it in its text or only without
    its end. -/
def residue (capacity : Option Nat) (kept : List UInt8) (line : String) : List UInt8 :=
  upTo capacity (kept ++ utf8 (line ++ "\n"))

theorem fillsUp (hwriter : ByteWriter.FillsUp capacity Keeps) :
    Sink.FillsUp capacity (fun sink : ByteSink ω => Keeps sink.writer) (residue capacity)
      (fun source => ∃ error, source = .device error) where
  accept_of_within := by
    intro sink kept line hkept hwithin
    rw [utf8_append, ← List.append_assoc] at hwithin ⊢
    rw [accept_eq]
    obtain ⟨_, next, hput, hnext⟩ | ⟨hnot, _⟩ := put_ok_or_error hwriter hkept (utf8 line)
    · rw [hput]
      obtain ⟨_, last, hend, hlast⟩ | ⟨hnot, _⟩ := put_ok_or_error hwriter hnext (utf8 "\n")
      · exact ⟨last, hend, hlast⟩
      · exact absurd hwithin hnot
    · exact absurd (hwithin.mono (List.prefix_append _ _).length_le) hnot
  accept_of_not_within := by
    intro sink kept line hkept hnot
    rw [residue]
    rw [utf8_append, ← List.append_assoc] at hnot ⊢
    rw [accept_eq]
    obtain ⟨_, next, hput, hnext⟩ | ⟨htext, error, next, hput, hnext⟩ :=
      put_ok_or_error hwriter hkept (utf8 line)
    · rw [hput]
      obtain ⟨hwithin, _⟩ | ⟨_, error, last, hend, hlast⟩ :=
        put_ok_or_error hwriter hnext (utf8 "\n")
      · exact absurd hwithin hnot
      · exact ⟨.device error, last, hend, ⟨error, rfl⟩, hlast⟩
    · rw [hput]
      refine ⟨.device error, next, rfl, ⟨error, rfl⟩, ?_⟩
      rwa [upTo_append_of_not_within htext]

end ByteSink

/-- A writer of text that keeps a piece whole if it fits, and else nothing of it. -/
structure TextWriter.KeepsWhole {ω : Type} [TextWriter ω] (capacity : Option Nat)
    (Keeps : ω → String → Prop) : Prop where
  write_of_within : ∀ {writer : ω} {kept piece : String}, Keeps writer kept →
    Within capacity (kept ++ piece).utf8ByteSize →
    ∃ next, TextWriter.write piece writer = .ok () next ∧ Keeps next (kept ++ piece)
  write_of_not_within : ∀ {writer : ω} {kept piece : String}, Keeps writer kept →
    ¬ Within capacity (kept ++ piece).utf8ByteSize →
    ∃ next, TextWriter.write piece writer = .error ⟨⟩ next ∧ Keeps next kept

namespace TextSink

variable {ω : Type} [TextWriter ω] {capacity : Option Nat} {Keeps : ω → String → Prop}
  {sink : TextSink ω} {kept : String}

theorem put_ok_or_error (hwriter : TextWriter.KeepsWhole capacity Keeps)
    (hkept : Keeps sink.writer kept) (piece : String) :
    (Within capacity (kept ++ piece).utf8ByteSize ∧
        ∃ next, put piece sink = .ok () next ∧ Keeps next.writer (kept ++ piece)) ∨
      ¬ Within capacity (kept ++ piece).utf8ByteSize ∧
        ∃ next, put piece sink = .error .format next ∧ Keeps next.writer kept := by
  obtain ⟨writer⟩ := sink
  unfold put
  by_cases hwithin : Within capacity (kept ++ piece).utf8ByteSize
  · obtain ⟨next, hwrite, hnext⟩ := hwriter.write_of_within hkept hwithin
    refine .inl ⟨hwithin, ⟨next⟩, ?_, hnext⟩
    simp only [hwrite]
  · obtain ⟨next, hwrite, hnext⟩ := hwriter.write_of_not_within hkept hwithin
    refine .inr ⟨hwithin, ⟨next⟩, ?_, hnext⟩
    simp only [hwrite]

theorem accept_eq (line : String) (sink : TextSink ω) :
    Sink.accept line sink =
      match put line sink with
      | .ok _ next => put "\n" next
      | .error source next => .error source next := by
  cases hput : put line sink <;> simp only [Sink.accept, bind, EStateM.bind, hput]

/-- What is kept once a line is refused: its text if that fits, so that only its end is missing. -/
def residue (capacity : Option Nat) (kept : List UInt8) (line : String) : List UInt8 :=
  if Within capacity (kept ++ utf8 line).length then kept ++ utf8 line else kept

theorem fillsUp (hwriter : TextWriter.KeepsWhole capacity Keeps) :
    Sink.FillsUp capacity
      (fun (sink : TextSink ω) bytes => ∃ kept, Keeps sink.writer kept ∧ utf8 kept = bytes)
      (residue capacity) (fun source => source = .format) where
  accept_of_within := by
    rintro sink _ line ⟨kept, hkept, rfl⟩ hwithin
    rw [← utf8_append, ← String.append_assoc] at hwithin ⊢
    rw [accept_eq]
    obtain ⟨_, next, hput, hnext⟩ | ⟨hnot, _⟩ := put_ok_or_error hwriter hkept line
    · rw [hput]
      obtain ⟨_, last, hend, hlast⟩ | ⟨hnot, _⟩ := put_ok_or_error hwriter hnext "\n"
      · exact ⟨last, hend, _, hlast, rfl⟩
      · exact absurd hwithin hnot
    · refine absurd (hwithin.mono ?_) hnot
      simp only [length_utf8, String.utf8ByteSize_append]
      omega
  accept_of_not_within := by
    rintro sink _ line ⟨kept, hkept, rfl⟩ hnot
    rw [← utf8_append, ← String.append_assoc] at hnot
    rw [residue, ← utf8_append, length_utf8, accept_eq]
    obtain ⟨htext, next, hput, hnext⟩ | ⟨htext, next, hput, hnext⟩ :=
      put_ok_or_error hwriter hkept line
    · rw [hput, if_pos htext]
      obtain ⟨hwithin, _⟩ | ⟨_, last, hend, hlast⟩ := put_ok_or_error hwriter hnext "\n"
      · exact absurd hwithin hnot
      · exact ⟨.format, last, hend, rfl, _, hlast, rfl⟩
    · rw [hput, if_neg htext]
      exact ⟨.format, next, rfl, rfl, kept, hnext, rfl⟩

end TextSink

end TreeDump
