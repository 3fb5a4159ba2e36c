import TreeDump.Dump.Depth
import TreeDump.Number.Decimal
import TreeDump.Number.Numeral
import TreeDump.Text.ControlSequence

namespace TreeDump.Command

/-- Which node of the sample tree is dumped. -/
inductive Root where
  | program
  | declaration
deriving DecidableEq, Repr

structure Options where
  depth : Depth
  root : Root
  indent : Nat
  logLevel : String

/-- The options that take a value. -/
inductive Flag where
  | depth
  | root
  | indent
  | logLevel
deriving DecidableEq, Repr

namespace Flag

def name : Flag → String
  | .depth => "depth"
  | .root => "root"
  | .indent => "indent"
  | .logLevel => "log-level"

/-- The option with a stand-in for its value, as messages show it. -/
def usage : Flag → String
  | .depth => "--depth <DEPTH>"
  | .root => "--root <ROOT>"
  | .indent => "--indent <INDENT>"
  | .logLevel => "--log-level <LOG_LEVEL>"

def ofName? (name : String) : Option Flag :=
  [depth, root, indent, logLevel].find? (·.name == name)

end Flag

inductive UsageError where
  | unexpected (argument : String)
  /-- No value was given, or an empty one where it has to be one of some words. -/
  | missingValue (flag : Flag)
  | repeated (flag : Flag)
  | unknownRoot (value : String)
  | notNumeral (flag : Flag) (value : String) (error : NumeralError)
  | depthOutOfRange (value : String) (depth : Int)
  /-- The request for help takes no value. -/
  | valueForHelp (value : String)

/-- The message as it is written where there is no terminal. What the arguments bring along stays
    out of it as far as it is no visible text. -/
def UsageError.message : UsageError → String
  | .unexpected argument => "unexpected argument '" ++ Text.visible argument ++ "' found"
  | .missingValue flag => "a value is required for '" ++ flag.usage ++ "' but none was supplied"
  | .repeated flag => "the argument '" ++ flag.usage ++ "' cannot be used multiple times"
  | .unknownRoot value =>
    "invalid value '" ++ Text.visible value ++ "' for '" ++ Flag.root.usage ++ "'"
  | .notNumeral flag value error =>
    "invalid value '" ++ Text.visible value ++ "' for '" ++ flag.usage ++ "': " ++ error.message
  | .depthOutOfRange value depth =>
    "invalid value '" ++ Text.visible value ++ "' for '" ++ Flag.depth.usage ++ "': " ++
      String.ofList (Decimal.integerChars depth) ++ " is not in 0..=4294967295"
  | .valueForHelp value =>
    "unexpected value '" ++ Text.visible value ++ "' for '--help' found; no more were expected"

/-- The values given so far. -/
structure Given where
  depth : Option Depth
  root : Option Root
  indent : Option Nat
  logLevel : Option String

namespace Given

def none : Given :=
  ⟨.none, .none, .none, .none⟩

def has (given : Given) : Flag → Bool
  | .depth => given.depth.isSome
  | .root => given.root.isSome
  | .indent => given.indent.isSome
  | .logLevel => given.logLevel.isSome

/-- Options that were not given have their defaults. -/
def options (given : Given) : Options where
  depth := given.depth.getD (.ofUInt32 1)
  root := given.root.getD .program
  indent := given.indent.getD 2
  logLevel := given.logLevel.getD "warn"

end Given

def readDepth (value : String) : Except UsageError Depth :=
  match Numeral.readInt64 value.toList with
  | .error error => .error (.notNumeral .depth value error)
  | .ok n =>
    if hrange : 0 ≤ n ∧ n ≤ 4294967295 then .ok ⟨n.toNat, by omega⟩
    else .error (.depthOutOfRange value n)

def readRoot (value : String) : Except UsageError Root :=
  if value = "program" then .ok .program
  else if value = "declaration" then .ok .declaration
  else if value.isEmpty then .error (.missingValue .root)
  else .error (.unknownRoot value)

def readIndent (value : String) : Except UsageError Nat :=
  match Numeral.readUInt64 value.toList with
  | .error error => .error (.notNumeral .indent value error)
  | .ok n => .ok n

/-- Adds a value to those given. An option given before is an error whatever its value. -/
def Given.add (given : Given) (flag : Flag) (value : String) : Except UsageError Given :=
  if given.has flag then
    .error (.repeated flag)
  else
    match flag with
    | .depth => (readDepth value).map fun depth => { given with depth := some depth }
    | .root => (readRoot value).map fun root => { given with root := some root }
    | .indent => (readIndent value).map fun indent => { given with indent := some indent }
    | .logLevel => .ok { given with logLevel := some value }

/-- An option whose value, if it has come yet, stands in an argument of its own. -/
structure Pending where
  flag : Flag
  value : Option String

/-- Adds the value that was waiting, if any. -/
def Given.settle (given : Given) : Option Pending → Except UsageError Given
  | .none => .ok given
  | some ⟨flag, .none⟩ => .error (.missingValue flag)
  | some ⟨flag, some value⟩ => given.add flag value

/-- The form of an argument, told from its first characters. -/
inductive Argument where
  /-- Two hyphens alone: what follows is no option. -/
  | separator
  | long (name : String) (value : Option String)
  | short (letter : Char)
  | plain

def Argument.ofText (text : String) : Argument :=
  match text.toList with
  | ['-', '-'] => .separator
  | '-' :: '-' :: rest =>
    let name := rest.takeWhile (· != '=')
    match rest.drop name.length with
    | [] => .long (String.ofList name) none
    | _ :: value => .long (String.ofList name) (some (String.ofList value))
  | '-' :: letter :: _ => .short letter
  | _ => .plain

/-- What the arguments ask for. -/
inductive Request where
  | help
  | dump (options : Options)

/-- Reads arguments from the left. A value in an argument of its own is looked at only when the next
    option begins or the arguments end. -/
def readArguments (given : Given) (pending : Option Pending) :
    List String → Except UsageError Request
  | [] => do return .dump (← given.settle pending).options
  | argument :: rest =>
    match Argument.ofText argument with
    | .separator =>
      match rest with
      | [] => do return .dump (← given.settle pending).options
      | next :: _ => .error (.unexpected next)
    | .long "help" (some value) => .error (.valueForHelp value)
    | .long "help" none => (given.settle pending).map fun _ => .help
    | .long name value =>
      match Flag.ofName? name, value with
      | none, _ => .error (.unexpected ("--" ++ name))
      | some flag, none => do
        readArguments (← given.settle pending) (some ⟨flag, none⟩) rest
      | some flag, some value => do
        readArguments (← (← given.settle pending).add flag value) none rest
    | .short 'h' => (given.settle pending).map fun _ => .help
    | .short letter => .error (.unexpected (String.ofList ['-', letter]))
    | .plain =>
      match pending with
      | some ⟨flag, none⟩ => readArguments given (some ⟨flag, some argument⟩) rest
      | _ => .error (.unexpected argument)

/-- Reads the arguments of the command. -/
def Request.ofArguments (arguments : List String) : Except UsageError Request :=
  readArguments .none none arguments

end TreeDump.Command
