import TreeDump.Pattern.Mode

namespace TreeDump.Pattern

/-- What an escape stands for. -/
inductive Escape where
  | literal (code : Nat)
  /-- One of several characters. -/
  | oneOf
  /-- An end of the text. -/
  | edge
  /-- A place that does or does not have a word on one side of it. -/
  | wordEdge
deriving DecidableEq, Repr

def hexDigit? (c : Char) : Option Nat :=
  if '0' ≤ c ∧ c ≤ '9' then some (c.toNat - '0'.toNat)
  else if 'a' ≤ c ∧ c ≤ 'f' then some (10 + (c.toNat - 'a'.toNat))
  else if 'A' ≤ c ∧ c ≤ 'F' then some (10 + (c.toNat - 'A'.toNat))
  else none

/-- Reads so many hexadecimal digits onto a number already read. -/
def readHex (mode : Mode) (code : Nat) : Nat → List Char → Option (Nat × List Char)
  | 0, text => some (code, text)
  | digits + 1, text =>
    match mode.skip text with
    | [] => none
    | c :: rest =>
      match hexDigit? c with
      | some digit => readHex mode (16 * code + digit) digits rest
      | none => none

/-- Reads the code of a byte. Only bytes of ASCII are text by themselves. -/
def readByte (mode : Mode) (text : List Char) : Option (Escape × List Char) :=
  match readHex mode 0 2 text with
  | some (code, rest) =>
    if mode.unicode || code < 0x80 then some (.literal code, rest) else none
  | none => none

/-- Reads a code of so many digits, which has to be that of a character. -/
def readCode (mode : Mode) (digits : Nat) (text : List Char) : Option (Escape × List Char) :=
  match readHex mode 0 digits text with
  | some (code, rest) => if code.isValidChar then some (.literal code, rest) else none
  | none => none

/-- The control characters that letters stand for. -/
def control? : Char → Option Nat
  | 'a' => some 0x07
  | 't' => some 0x09
  | 'n' => some 0x0A
  | 'v' => some 0x0B
  | 'f' => some 0x0C
  | 'r' => some 0x0D
  | _ => none

/-- Reads what stands behind a backslash. -/
def readEscape (mode : Mode) : List Char → Option (Escape × List Char)
  | [] => none
  | 'x' :: rest => readByte mode rest
  | 'u' :: rest => readCode mode 4 rest
  | 'U' :: rest => readCode mode 8 rest
  | c :: rest =>
    if ['d', 's', 'w'].contains c then
      if mode.unicode then none else some (.oneOf, rest)
    else if ['b', 'B', '<', '>'].contains c then some (.wordEdge, rest)
    else if ['A', 'z'].contains c then some (.edge, rest)
    else if c.toNat < 0x80 && !c.isAlphanum then some (.literal c.toNat, rest)
    else
      match control? c with
      | some code => some (.literal code, rest)
      | none => none

end TreeDump.Pattern
