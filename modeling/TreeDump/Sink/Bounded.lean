import TreeDump.Sink.ByteWriter
import TreeDump.Sink.TextWriter

namespace TreeDump

/-- The front of some bytes, up to a bound that may be absent. -/
def upTo (bound : Option Nat) (bytes : List UInt8) : List UInt8 :=
  match bound with
  | none => bytes
  | some most => bytes.take most

/-- What a writer answers when it can take no byte. -/
inductive FullAnswer where
  | tookNothing
  | failed (error : DeviceError)

def FullAnswer.toAnswer : FullAnswer → WriteAnswer
  | .tookNothing => .took 0
  | .failed error => .failed error

/-- Keeps bytes up to its capacity, at most `chunk` of them at a time. -/
structure BoundedBytes where
  capacity : Option Nat
  chunk : Option Nat
  full : FullAnswer
  /-- Every so many calls are interrupted. Zero and one stand for none. -/
  interruptEvery : Nat
  flushError : Option DeviceError
  calls : Nat
  kept : ByteArray

namespace BoundedBytes

/-- Takes everything, at once and without interruption. -/
def unlimited : BoundedBytes :=
  { capacity := none, chunk := none, full := .tookNothing, interruptEvery := 0, flushError := none,
    calls := 0, kept := .empty }

/-- Fails with the given error on the first byte. -/
def failing (error : DeviceError) : BoundedBytes :=
  { unlimited with capacity := some 0, full := .failed error }

/-- The call after `calls` others is one to be interrupted. -/
def Interrupts (interruptEvery calls : Nat) : Prop :=
  1 < interruptEvery ∧ (calls + 1) % interruptEvery = 0

instance (interruptEvery calls : Nat) : Decidable (Interrupts interruptEvery calls) :=
  inferInstanceAs (Decidable (_ ∧ _))

/-- Of two calls in a row at most one is interrupted. -/
theorem not_interrupts_succ {interruptEvery calls : Nat} (hnow : Interrupts interruptEvery calls) :
    ¬ Interrupts interruptEvery (calls + 1) := by
  obtain ⟨hone, hmod⟩ := hnow
  intro hnext
  have hmodNext := hnext.2
  rw [Nat.add_mod, hmod, Nat.zero_add, Nat.mod_mod, Nat.mod_eq_of_lt hone] at hmodNext
  omega

/-- What can be taken now of the offered bytes. -/
def portion (w : BoundedBytes) (bytes : List UInt8) : List UInt8 :=
  upTo (w.capacity.map (· - w.kept.size)) (upTo w.chunk bytes)

def write (bytes : List UInt8) (w : BoundedBytes) : WriteAnswer × BoundedBytes :=
  if Interrupts w.interruptEvery w.calls then
    (.interrupted, { w with calls := w.calls + 1 })
  else
    match w.portion bytes with
    | [] => (w.full.toAnswer, { w with calls := w.calls + 1 })
    | taken =>
      (.took taken.length, { w with calls := w.calls + 1, kept := w.kept ++ ⟨taken.toArray⟩ })

def flush (w : BoundedBytes) : EStateM.Result DeviceError BoundedBytes Unit :=
  match w.flushError with
  | none => .ok () w
  | some error => .error error w

/-- Whether the next call will be interrupted. -/
def patience (w : BoundedBytes) : Nat :=
  if Interrupts w.interruptEvery w.calls then 1 else 0

theorem patience_lt_of_interrupted {bytes : List UInt8} {before after : BoundedBytes}
    (hwrite : before.write bytes = (.interrupted, after)) : after.patience < before.patience := by
  unfold write at hwrite
  by_cases hnow : Interrupts before.interruptEvery before.calls
  · rw [if_pos hnow] at hwrite
    cases hwrite
    simp [patience, hnow, not_interrupts_succ hnow]
  · rw [if_neg hnow] at hwrite
    split at hwrite
    · cases hanswer : before.full <;> simp [hanswer, FullAnswer.toAnswer] at hwrite
    · cases hwrite

instance : ByteWriter BoundedBytes where
  write := write
  flush := flush
  patience _ := patience
  patience_lt_of_interrupted := patience_lt_of_interrupted

end BoundedBytes

/-- Keeps text up to a capacity in bytes of UTF-8. -/
structure BoundedText where
  capacity : Option Nat
  kept : String

namespace BoundedText

/-- The piece fits whole into what is left. -/
def Fits (capacity : Option Nat) (kept piece : String) : Prop :=
  ∀ most, capacity = some most → kept.utf8ByteSize + piece.utf8ByteSize ≤ most

instance (capacity : Option Nat) (kept piece : String) : Decidable (Fits capacity kept piece) :=
  match capacity with
  | none => .isTrue fun _ hnone => nomatch hnone
  | some most =>
    decidable_of_iff (kept.utf8ByteSize + piece.utf8ByteSize ≤ most)
      ⟨fun hfits _ hsome => Option.some.inj hsome ▸ hfits, fun hfits => hfits most rfl⟩

instance : TextWriter BoundedText where
  write piece := fun ⟨capacity, kept⟩ =>
    if Fits capacity kept piece then .ok () ⟨capacity, kept ++ piece⟩
    else .error ⟨⟩ ⟨capacity, kept⟩

end BoundedText

end TreeDump
