import TreeDump.Pattern.Escape
import TreeDump.Pattern.Nesting

namespace TreeDump.Pattern

def asciiClasses : List String :=
  ["alnum", "alpha", "ascii", "blank", "cntrl", "digit", "graph", "lower", "print", "punct", "space",
    "upper", "word", "xdigit"]

/-- Reads the name of a class behind its opening bracket, and whether the class is negated. -/
def readAsciiClass : List Char → Option (Bool × List Char)
  | ':' :: text =>
    let negated := text.head? == some '^'
    let text := if negated then text.drop 1 else text
    let name := text.takeWhile (· != ':')
    match text.drop name.length with
    | ':' :: ']' :: rest =>
      if asciiClasses.contains (String.ofList name) then some (negated, rest) else none
    | _ => none
  | _ => none

/-- Reads a member of a class: the code of a character, or nothing if it stands for several. -/
def readMember (mode : Mode) : List Char → Option (Option Nat × List Char)
  | [] => none
  | '\\' :: text =>
    match readEscape mode text with
    | some (.literal code, rest) =>
      if mode.allowsMember code then some (some code, rest) else none
    | some (.oneOf, rest) => some (none, rest)
    | _ => none
  | c :: rest => if mode.allowsMember c.toNat then some (some c.toNat, rest) else none

/-- Reads a member, or the two ends of a range. A hyphen makes no range with a bracket that closes
    the class or with another hyphen. -/
def readRange (mode : Mode) (text : List Char) : Option (List Char) :=
  match readMember mode text with
  | none => none
  | some (first, rest) =>
    match mode.skip rest with
    | '-' :: behind =>
      if mode.peek behind == some ']' || mode.peek behind == some '-' then
        some ('-' :: behind)
      else
        match first, readMember mode (mode.skip behind) with
        | some first, some (some last, rest) => if first ≤ last then some rest else none
        | _, _ => none
    | rest => some rest

/-- Goes past the caret of a negated class. -/
def openClass (mode : Mode) (text : List Char) : Option (List Char) :=
  match mode.skip text with
  | '^' :: rest => if mode.allowsNegation then some rest else none
  | rest => some rest

/-- What has been read of a class. -/
structure Bracket where
  /-- The depth of what stands on the left of the last operator. -/
  left : Option Nat
  /-- The depth of each member behind it. -/
  members : List Nat

namespace Bracket

def opened : Bracket :=
  ⟨none, []⟩

def add (bracket : Bracket) (depth : Nat) : Bracket :=
  { bracket with members := depth :: bracket.members }

def depth (bracket : Bracket) : Nat :=
  match bracket.left with
  | none => sideBySide bracket.members
  | some left => sideBySide [left, sideBySide bracket.members]

/-- All that has been read becomes the left side of an operator. -/
def operate (bracket : Bracket) : Bracket :=
  ⟨some bracket.depth, []⟩

end Bracket

/-- How far a class has been read. Hyphens that come first stand for themselves, and so does a
    closing bracket before anything else. -/
inductive ClassPart where
  | opening
  | hyphens
  | members
deriving DecidableEq

/-- Reads a class up to its closing bracket and tells how deep it is nested. `around` are the classes
    that it stands in. -/
def readClass (mode : Mode) :
    Nat → Bracket → List Bracket → ClassPart → List Char → Option (Nat × List Char)
  | 0, _, _, _, _ => none
  | fuel + 1, bracket, around, part, text =>
    match mode.skip text with
    | [] => none
    | c :: rest =>
      if part = .opening ∧ c = ']' ∨ part ≠ .members ∧ c = '-' then
        if mode.allowsMember c.toNat then
          readClass mode fuel (bracket.add 0) around (if c = '-' then .hyphens else .members) rest
        else
          none
      else if c = '[' then
        match readAsciiClass rest with
        | some (negated, rest) =>
          if mode.allowsMember 0 && (!negated || mode.allowsNegation) then
            readClass mode fuel (bracket.add 0) around .members rest
          else
            none
        | none =>
          match openClass mode rest with
          | some rest => readClass mode fuel .opened (bracket :: around) .opening rest
          | none => none
      else if c = ']' then
        match around with
        | [] => some (bracket.depth + 1, rest)
        | outer :: around => readClass mode fuel (outer.add (bracket.depth + 1)) around .members rest
      else if ['&', '-', '~'].contains c && rest.head? == some c then
        readClass mode fuel bracket.operate around .members (rest.drop 1)
      else
        match readRange mode (c :: rest) with
        | some rest => readClass mode fuel (bracket.add 0) around .members rest
        | none => none

end TreeDump.Pattern
