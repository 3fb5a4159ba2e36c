import TreeDump.Number.Text
import TreeDump.Text.Quoted
import TreeDump.Text.Record

namespace TreeDump

inductive Scalar where
  | number (value : Binary64)
  | string (value : String)
  | boolean (value : Bool)
  | undefined
deriving Inhabited

namespace Scalar

def ofInt32 (n : Int32) : Scalar :=
  .number (.ofInt32 n)

/-- Scalars of different types differ; numbers are compared as numbers, so a NaN differs from itself. -/
def equal : Scalar → Scalar → Bool
  | .number a, .number b => a == b
  | .string a, .string b => a == b
  | .boolean a, .boolean b => a == b
  | .undefined, .undefined => true
  | _, _ => false

instance : BEq Scalar := ⟨equal⟩

def isUndefined : Scalar → Bool
  | .undefined => true
  | _ => false

def number? : Scalar → Option Binary64
  | .number value => some value
  | _ => none

def string? : Scalar → Option String
  | .string value => some value
  | _ => none

def boolean? : Scalar → Option Bool
  | .boolean value => some value
  | _ => none

/-- The name of the scalar's type, as a script would report it. -/
def typeName : Scalar → String
  | .number _ => "number"
  | .string _ => "string"
  | .boolean _ => "boolean"
  | .undefined => "undefined"

def booleanText (value : Bool) : String :=
  if value then "true" else "false"

/-- The text in a dump. A string stands for itself, so it may hold anything, line ends included. -/
def text : Scalar → String
  | .number value => value.text
  | .string value => value
  | .boolean value => booleanText value
  | .undefined => "undefined"

def inspect : Scalar → String
  | .number value => Text.variant "Number" value.inspect
  | .string value => Text.variant "String" (Text.quoted value)
  | .boolean value => Text.variant "Boolean" (booleanText value)
  | .undefined => "Undefined"

end Scalar

end TreeDump
