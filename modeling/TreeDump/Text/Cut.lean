import TreeDump.Fault

namespace TreeDump.Text

/-- The number of bytes. -/
def utf8Length : List Char → Nat
  | [] => 0
  | c :: text => c.utf8Size + utf8Length text

/-- The text in two parts, the first of which has so many bytes. -/
def splitAtByte? : Nat → List Char → Option (List Char × List Char)
  | 0, text => some ([], text)
  | _ + 1, [] => none
  | offset + 1, c :: text =>
    if c.utf8Size ≤ offset + 1 then
      match splitAtByte? (offset + 1 - c.utf8Size) text with
      | some (before, behind) => some (c :: before, behind)
      | none => none
    else none
termination_by _ text => text

/-- What stands from an offset on. -/
def cutFrom (start : Nat) (text : List Char) : Except Fault (List Char) :=
  match splitAtByte? start text with
  | some (_, behind) => .ok behind
  | none => .error .splitCharacter

/-- What stands from one offset up to another, which does not come before it. -/
def cut (start stop : Nat) (text : List Char) : Except Fault (List Char) :=
  match splitAtByte? stop text with
  | some (before, _) => cutFrom start before
  | none => .error .splitCharacter

end TreeDump.Text
