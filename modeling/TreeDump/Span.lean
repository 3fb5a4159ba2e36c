import TreeDump.Fault

namespace TreeDump

/-- The bytes from `start` up to, and not including, `stop`. -/
structure Span where
  start : UInt32
  stop : UInt32
deriving DecidableEq, Inhabited

namespace Span

/-- The bounds are in order. -/
def Ordered (s : Span) : Prop :=
  s.start ≤ s.stop

instance (s : Span) : Decidable s.Ordered :=
  inferInstanceAs (Decidable (s.start ≤ s.stop))

/-- The span with the given bounds, if they are in order. -/
def between? (start stop : UInt32) : Except Fault Span :=
  if start ≤ stop then .ok ⟨start, stop⟩ else .error .reversedSpan

/-- The number of bytes. Only a reversed span has none. -/
def length (s : Span) : Except Fault UInt32 :=
  if s.start ≤ s.stop then .ok (s.stop - s.start) else .error .negativeLength

def isEmpty (s : Span) : Bool :=
  s.start == s.stop

/-- The text for readers, in the notation of half-open intervals. -/
def text (s : Span) : String :=
  "[" ++ Nat.repr s.start.toNat ++ ", " ++ Nat.repr s.stop.toNat ++ ")"

/-- The text under inspection. -/
def inspect (s : Span) : String :=
  Nat.repr s.start.toNat ++ ".." ++ Nat.repr s.stop.toNat

/-- A span is built exactly when its bounds are in order, and then it has those bounds. -/
theorem between?_eq_ok_iff {start stop : UInt32} {s : Span} :
    between? start stop = .ok s ↔ start ≤ stop ∧ s = ⟨start, stop⟩ := by
  by_cases hle : start ≤ stop
  · simp [between?, hle, eq_comm]
  · simp [between?, hle]

end Span

end TreeDump
