namespace TreeDump

/-- A number of indentation levels. -/
@[ext] structure Depth where
  level : Nat
  level_le : level ≤ 4294967295
deriving DecidableEq

namespace Depth

/-- The largest depth. -/
def limit : Nat := 4294967295

def zero : Depth :=
  ⟨0, by decide⟩

def ofUInt32 (n : UInt32) : Depth :=
  ⟨n.toNat, Nat.le_of_lt_succ n.toNat_lt⟩

/-- The depth so many levels further in, or the largest depth if that is less. -/
def below (depth : Depth) (levels : Nat) : Depth :=
  ⟨min (depth.level + levels) limit, Nat.min_le_right _ _⟩

@[simp] theorem level_below (depth : Depth) (levels : Nat) :
    (depth.below levels).level = min (depth.level + levels) limit := rfl

@[simp] theorem below_zero (depth : Depth) : depth.below 0 = depth := by
  apply Depth.ext
  have hle := depth.level_le
  simp only [level_below, limit]
  omega

/-- Going in twice is going in once by the sum, even at the limit. -/
theorem below_below (depth : Depth) (first second : Nat) :
    (depth.below first).below second = depth.below (first + second) := by
  apply Depth.ext
  simp only [level_below]
  omega

end Depth

end TreeDump
