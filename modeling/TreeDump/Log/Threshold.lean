import TreeDump.Log.Event
import TreeDump.Number.Numeral

namespace TreeDump

/-- The least grave level that is shown, or nothing at all. -/
abbrev Threshold := Option Level

namespace Threshold

/-- The numbers of thresholds count from zero, which shows nothing. -/
def ofNumber? : Nat → Option Threshold
  | 0 => some none
  | 1 => some (some .error)
  | 2 => some (some .warn)
  | 3 => some (some .info)
  | 4 => some (some .debug)
  | 5 => some (some .trace)
  | _ => none

def ofName? : String → Option Threshold
  | "off" => some none
  | "error" => some (some .error)
  | "warn" => some (some .warn)
  | "info" => some (some .info)
  | "debug" => some (some .debug)
  | "trace" => some (some .trace)
  | _ => none

/-- Reads a number, or a name in any case. -/
def ofText? (text : List Char) : Option Threshold :=
  match Numeral.readUInt64 text with
  | .ok n => ofNumber? n
  | .error _ => ofName? (String.ofList (text.map Char.toLower))

def admits (threshold : Threshold) (level : Level) : Bool :=
  match threshold with
  | none => false
  | some least => decide (level.rank ≤ least.rank)

end Threshold

end TreeDump
