import TreeDump.Number.Binary64
import TreeDump.Number.Shortest

namespace TreeDump

namespace Decimal.Style

/-- Dumps write every number with its point in place and whole numbers without one. -/
def plain : Style where
  inPlace _ := true
  wholeEnd := []

/-- Inspection writes numbers from `10 ^ -4` up to `10 ^ 16` in place, whole ones ending in `.0`. -/
def inspected : Style where
  inPlace e := decide (-4 ≤ e ∧ e < 16)
  wholeEnd := ['.', '0']

end Decimal.Style

namespace Binary64

/-- A zero keeps its sign; a NaN has one text whatever its bits. -/
def write (style : Decimal.Style) (x : Binary64) : List Char :=
  match x.magnitude with
  | .nan => "NaN".toList
  | .infinite => if x.negative then "-inf".toList else "inf".toList
  | .finite significand exponent =>
    let digits := (Decimal.shortest significand exponent).write style
    if x.negative then '-' :: digits else digits

/-- The text of a number in a dump. -/
def text (x : Binary64) : String :=
  String.ofList (x.write .plain)

/-- The text of a number under inspection. -/
def inspect (x : Binary64) : String :=
  String.ofList (x.write .inspected)

end Binary64

end TreeDump
