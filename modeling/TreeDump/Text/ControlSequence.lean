namespace TreeDump.Text

/-- The kind of control sequence that a text is in at some point. -/
inductive ControlSequence where
  /-- None: characters stand for themselves. -/
  | ground
  /-- Just behind an escape character. -/
  | escape
  | escapeIntermediate
  /-- Parameters of a control function, up to the letter that names it. -/
  | parameters
  /-- The three stages of the header of a device string. -/
  | deviceEntry
  | deviceParameters
  | deviceIntermediate
  /-- A string that only a string terminator ends. -/
  | string
  /-- A system command, which a bell ends. -/
  | command
deriving DecidableEq, Repr

/-- Controls that only move on in the text. -/
def isLayoutControl (c : Char) : Bool :=
  c == '\t' || c == '\n' || c == '\x0c' || c == '\r'

/-- The string terminator is a single byte, and it is looked for among all bytes of the text, those
    inside a character included. -/
def holdsStringEnd (c : Char) : Bool :=
  (String.utf8EncodeChar c).contains 0x9c

namespace ControlSequence

/-- Where the text is after one more character. Cancel and substitute end any sequence, and an escape
    character begins a new one. -/
def next (s : ControlSequence) (c : Char) : ControlSequence :=
  let n := c.toNat
  if n = 0x18 ∨ n = 0x1a then .ground
  else if n = 0x1b then .escape
  else
    match s with
    | .ground => .ground
    | .escape =>
      if c = '[' then .parameters
      else if c = ']' then .command
      else if c = 'P' then .deviceEntry
      else if c = 'X' ∨ c = '^' ∨ c = '_' then .string
      else if 0x20 ≤ n ∧ n ≤ 0x2f then .escapeIntermediate
      else if 0x30 ≤ n ∧ n ≤ 0x7e then .ground
      else .escape
    | .escapeIntermediate => if 0x30 ≤ n ∧ n ≤ 0x7e then .ground else .escapeIntermediate
    | .parameters => if 0x40 ≤ n ∧ n ≤ 0x7e then .ground else .parameters
    | .deviceEntry =>
      if 0x20 ≤ n ∧ n ≤ 0x2f then .deviceIntermediate
      else if 0x30 ≤ n ∧ n ≤ 0x3f then .deviceParameters
      else if 0x40 ≤ n ∧ n ≤ 0x7e then .string
      else .deviceEntry
    | .deviceParameters =>
      if 0x20 ≤ n ∧ n ≤ 0x2f then .deviceIntermediate
      else if 0x3c ≤ n ∧ n ≤ 0x7e then .string
      else .deviceParameters
    | .deviceIntermediate => if 0x30 ≤ n ∧ n ≤ 0x7e then .string else .deviceIntermediate
    | .string => if holdsStringEnd c then .ground else .string
    | .command => if n = 0x07 then .ground else .command

/-- Sequences in which a control character has the effect that it has outside them. -/
def executes : ControlSequence → Bool
  | .ground => true
  | .escape => true
  | .escapeIntermediate => true
  | .parameters => true
  | _ => false

/-- Whether a character is part of the visible text. -/
def shows (s : ControlSequence) (c : Char) : Bool :=
  if isLayoutControl c then s.executes
  else s = .ground && 0x20 ≤ c.toNat && c.toNat ≠ 0x7f

/-- The visible characters of a text from some point on. A layout control inside a sequence
    interrupts it: the text is visible from there up to the next other control, with which the
    sequence goes on, and any character beyond ASCII ends it for good. -/
def visibleFrom (s : ControlSequence) (interrupted : Bool) : List Char → List Char
  | [] => []
  | c :: cs =>
    if interrupted && ground.shows c then
      if c.toNat < 0x80 then c :: visibleFrom s true cs else c :: visibleFrom .ground false cs
    else if s.shows c then c :: visibleFrom s (s != .ground) cs
    else visibleFrom (s.next c) false cs

end ControlSequence

/-- The text without control sequences and control characters. -/
def visible (text : String) : String :=
  String.ofList (ControlSequence.visibleFrom .ground false text.toList)

end TreeDump.Text
