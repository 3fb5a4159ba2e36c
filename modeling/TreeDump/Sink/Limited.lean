import TreeDump.Sink.Basic

namespace TreeDump

/-- Keeps up to `limit` lines. Calls are counted from zero, refused ones included, and those listed in
    `refused` are refused in any case. -/
structure LimitedLines where
  limit : Option Nat
  refused : List Nat
  calls : Nat
  lines : Array String

namespace LimitedLines

/-- The next line will be refused. -/
def Closed (limit : Option Nat) (refused : List Nat) (calls accepted : Nat) : Prop :=
  (∃ most, limit = some most ∧ most ≤ accepted) ∨ calls ∈ refused

instance (limit : Option Nat) (refused : List Nat) (calls accepted : Nat) :
    Decidable (Closed limit refused calls accepted) :=
  match limit with
  | none => decidable_of_iff (calls ∈ refused) (by simp [Closed])
  | some most => decidable_of_iff (most ≤ accepted ∨ calls ∈ refused) (by simp [Closed])

instance : Sink LimitedLines where
  accept line := fun ⟨limit, refused, calls, lines⟩ =>
    if Closed limit refused calls lines.size then
      .error .closed ⟨limit, refused, calls + 1, lines⟩
    else
      .ok () ⟨limit, refused, calls + 1, lines.push line⟩

end LimitedLines

end TreeDump
