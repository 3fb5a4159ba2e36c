import TreeDump.Pattern.Bracket
import TreeDump.Pattern.Group

namespace TreeDump

/-- What counts of a pattern that is well formed. -/
structure Pattern where
  depth : Nat
  /-- Whether it asks where the words of Unicode begin or end. -/
  usesWords : Bool
deriving DecidableEq, Repr

namespace Pattern

/-- A part of a sequence. -/
structure Part where
  depth : Nat
  /-- Flags are parts too, but there is nothing in them to repeat. -/
  repeatable : Bool

/-- A group that has been read in part. -/
structure Level where
  /-- The flags in force, which change on the way. -/
  mode : Mode
  /-- The parts of the alternative that is being read, the last one first. -/
  parts : List Part
  /-- The depth of each alternative in front of it. -/
  alternatives : List Nat

namespace Level

def opened (mode : Mode) : Level :=
  ⟨mode, [], []⟩

def add (level : Level) (depth : Nat) : Level :=
  { level with parts := ⟨depth, true⟩ :: level.parts }

def addFlags (level : Level) (mode : Mode) : Level :=
  { level with mode := mode, parts := ⟨0, false⟩ :: level.parts }

/-- Puts the last part under a repetition. -/
def repeatLast? (level : Level) : Option Level :=
  match level.parts with
  | ⟨depth, true⟩ :: parts => some { level with parts := ⟨depth + 1, true⟩ :: parts }
  | _ => none

/-- The depth of the alternative that is being read. -/
def alternative (level : Level) : Nat :=
  sideBySide (level.parts.map Part.depth)

/-- Begins another alternative. -/
def divide (level : Level) : Level :=
  { level with parts := [], alternatives := level.alternative :: level.alternatives }

def depth (level : Level) : Nat :=
  sideBySide (level.alternative :: level.alternatives)

end Level

/-- Reads a pattern to its end. `around` are the groups that are open around the innermost one, and
    `names` are the names given so far. Counted repetitions are not read, for no text that holds a
    closing brace behind an opening one is looked at as a pattern. -/
def readFrom : Nat → Level → List Level → List (List Char) → Bool → List Char → Option Pattern
  | 0, _, _, _, _, _ => none
  | fuel + 1, level, around, names, usesWords, text =>
    match level.mode.skip text with
    | [] => if around.isEmpty then some ⟨level.depth, usesWords⟩ else none
    | '(' :: rest =>
      match readGroup level.mode names (level.mode.skip rest) with
      | some (.flags mode, rest) => readFrom fuel (level.addFlags mode) around names usesWords rest
      | some (.inner mode names, rest) =>
        readFrom fuel (.opened mode) (level :: around) names usesWords rest
      | none => none
    | ')' :: rest =>
      match around with
      | outer :: around => readFrom fuel (outer.add (level.depth + 1)) around names usesWords rest
      | [] => none
    | '|' :: rest => readFrom fuel level.divide around names usesWords rest
    | '[' :: rest =>
      match openClass level.mode rest with
      | some rest =>
        match readClass level.mode fuel .opened [] .opening rest with
        | some (depth, rest) => readFrom fuel (level.add depth) around names usesWords rest
        | none => none
      | none => none
    | '\\' :: rest =>
      match readEscape level.mode rest with
      | some (.literal _, rest) =>
        if level.mode.allowsLiteral then readFrom fuel (level.add 0) around names usesWords rest
        else none
      | some (.wordEdge, rest) =>
        readFrom fuel (level.add 0) around names (usesWords || level.mode.unicode) rest
      | some (_, rest) => readFrom fuel (level.add 0) around names usesWords rest
      | none => none
    | '{' :: _ => none
    | '.' :: rest =>
      if level.mode.unicode then readFrom fuel (level.add 0) around names usesWords rest else none
    | c :: rest =>
      if ['?', '*', '+'].contains c then
        match level.repeatLast? with
        | some level =>
          readFrom fuel level around names usesWords
            (if rest.head? == some '?' then rest.drop 1 else rest)
        | none => none
      else if c = '^' ∨ c = '$' ∨ level.mode.allowsLiteral then
        readFrom fuel (level.add 0) around names usesWords rest
      else
        none

/-- Reads a pattern. Every step reads a character, so there are fewer steps than one more than the
    characters. -/
def read? (text : List Char) : Option Pattern :=
  readFrom (text.length + 1) (.opened .start) [] [] false text

end Pattern

/-- Why a text cannot be used as a pattern. -/
inductive PatternError where
  | malformed
  | wordBoundary
deriving DecidableEq, Repr

def PatternError.message : PatternError → String
  | .malformed => "error building NFA"
  | .wordBoundary =>
    "unsupported regex feature for DFAs: cannot build DFAs for regexes with Unicode word " ++
      "boundaries; switch to ASCII word boundaries, or heuristically enable Unicode word " ++
      "boundaries or use a different regex engine"

/-- Tells whether a text can be used as a pattern. One that is nested too deep counts as malformed. -/
def Pattern.check (text : List Char) : Except PatternError Unit :=
  match read? text with
  | none => .error .malformed
  | some pattern =>
    if nestingLimit < pattern.depth then .error .malformed
    else if pattern.usesWords then .error .wordBoundary
    else .ok ()

end TreeDump
