import TreeDump.Text.Blank

namespace TreeDump.Pattern

/-- The flags that bear on the form of a pattern. -/
structure Mode where
  ignoreCase : Bool
  unicode : Bool
  /-- Blanks and comments between the parts do not count. -/
  verbose : Bool
deriving DecidableEq, Repr

/-- What follows the blanks and comments that do not count. -/
def skipBlanks (inComment : Bool) : List Char → List Char
  | [] => []
  | c :: cs =>
    if inComment then skipBlanks (c != '\n') cs
    else if Text.isBlank c then skipBlanks false cs
    else if c == '#' then skipBlanks true cs
    else c :: cs

namespace Mode

def start : Mode :=
  ⟨false, true, false⟩

def set (mode : Mode) (value : Bool) (flag : Char) : Mode :=
  match flag with
  | 'i' => { mode with ignoreCase := value }
  | 'u' => { mode with unicode := value }
  | 'x' => { mode with verbose := value }
  | _ => mode

/-- Flags behind a hyphen are taken back. -/
def apply (mode : Mode) (flags : List Char) : Mode :=
  let given := flags.takeWhile (· != '-')
  (flags.drop given.length).foldl (·.set false) (given.foldl (·.set true) mode)

/-- A character stands for itself in either case only if the cases are those of ASCII. -/
def allowsLiteral (mode : Mode) : Bool :=
  !(mode.ignoreCase && mode.unicode)

/-- A class of bytes is one of ASCII. -/
def allowsMember (mode : Mode) (code : Nat) : Bool :=
  if mode.unicode then !mode.ignoreCase else code < 0x80

/-- A class of bytes has no opposite, which would not be one of ASCII. -/
def allowsNegation (mode : Mode) : Bool :=
  mode.unicode

def skip (mode : Mode) (text : List Char) : List Char :=
  if mode.verbose then skipBlanks false text else text

/-- The character that counts behind a hyphen. The text of a comment is not passed over here, only
    the sign that begins it, and where nothing else is left the next character counts as it is. -/
def peek (mode : Mode) (text : List Char) : Option Char :=
  if mode.verbose then
    let seen :=
      match text.dropWhile Text.isBlank with
      | '#' :: comment => comment.dropWhile Text.isBlank
      | seen => seen
    seen.head?.or text.head?
  else
    text.head?

end Mode

end TreeDump.Pattern
