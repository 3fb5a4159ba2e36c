namespace TreeDump.Pattern

/-- No pattern may be nested deeper. -/
def nestingLimit : Nat :=
  250

/-- The depth of parts side by side, given the depth of each. -/
def sideBySide : List Nat → Nat
  | [] => 0
  | [depth] => depth
  | depths => depths.foldl max 0 + 1

end TreeDump.Pattern
