import TreeDump.Log.Threshold
import TreeDump.Pattern.Reading
import TreeDump.Text.Cut

namespace TreeDump

/-- A field that has to be there, perhaps with a certain value. -/
structure FieldTest where
  name : List Char
  valued : Bool
deriving DecidableEq

/-- An item of a filter. No event has a span around it, so a directive that names one selects nothing. -/
structure Directive where
  /-- What the target begins with. All targets begin with the empty text. -/
  target : List Char
  span : Option (List Char)
  field : Option FieldTest
  threshold : Threshold

namespace Directive

/-- A directive for all events. -/
def general (threshold : Threshold) : Directive :=
  ⟨[], none, none, threshold⟩

/-- What is asked of an event itself, whatever is around it. -/
def selects (d : Directive) (event : Event) : Bool :=
  d.span.isNone && d.target.isPrefixOf event.target.toList &&
    match d.field with
    | none => true
    | some test => !test.valued && event.fields.contains (String.ofList test.name)

/-- The directive that counts where both select an event: the one that asks for more of the target,
    then the one that asks for a field, then the one whose field comes later in the alphabet. -/
def outranks (d e : Directive) : Bool :=
  if d.target.length ≠ e.target.length then
    decide (e.target.length < d.target.length)
  else
    match d.field, e.field with
    | none, _ => false
    | some _, none => true
    | some test, some other => decide (other.name < test.name)

end Directive

/-- Why an item is no directive. -/
inductive DirectiveError where
  | malformed
  | unknownLevel
  | badPattern (error : PatternError)
deriving DecidableEq, Repr

def DirectiveError.message : DirectiveError → String
  | .malformed => "invalid filter directive"
  | .unknownLevel =>
    "error parsing level filter: expected one of \"off\", \"error\", \"warn\", \"info\", " ++
      "\"debug\", \"trace\", or a number 0-5"
  | .badPattern error => "invalid field filter: " ++ error.message

/-- Why no directive was read from an item. -/
inductive ItemError where
  | refused (error : DirectiveError)
  /-- The item could not even be taken apart. -/
  | fault (fault : Fault)
deriving DecidableEq

namespace Directive

def refuse {α : Type} (error : DirectiveError) : Except ItemError α :=
  .error (.refused error)

def cutFrom (start : Nat) (item : List Char) : Except ItemError (List Char) :=
  (Text.cutFrom start item).mapError .fault

def cut (start stop : Nat) (item : List Char) : Except ItemError (List Char) :=
  (Text.cut start stop item).mapError .fault

/-- Reads the level that begins at an offset. Without one everything is shown. -/
def readLevel (item : List Char) (start : Nat) : Except ItemError Threshold := do
  let text ← cutFrom start item
  if text.isEmpty then
    return some .trace
  else
    match Threshold.ofText? text with
    | some threshold => return threshold
    | none => refuse .unknownLevel

/-- Reads what may follow a span: nothing, or a level. -/
def readEnd (item : List Char) (offset : Nat) : List Char → Except ItemError Threshold
  | [] => .ok (some .trace)
  | '=' :: _ => readLevel item (offset + 1)
  | _ => refuse .malformed

/-- A field has a name and perhaps a value, which is a number or a pattern. -/
def readField (text : List Char) : Except ItemError FieldTest :=
  let name := text.takeWhile (· != '=')
  if text.isEmpty then
    refuse .malformed
  else
    match text.drop name.length with
    | [] => .ok ⟨name, false⟩
    | _ :: rest =>
      let value := rest.takeWhile (· != '=')
      if Numeral.isReal value then
        .ok ⟨name, true⟩
      else
        match Pattern.check value with
        | .ok () => .ok ⟨name, true⟩
        | .error error => refuse (.badPattern error)

/-- Reads a span that begins at an offset, with what follows it. -/
def readSpan (item target : List Char) (start : Nat) (text : List Char) :
    Except ItemError Directive :=
  let name := text.takeWhile fun c => c != ']' && c != '\x7b'
  let stop := start + Text.utf8Length name
  match text.drop name.length with
  | ']' :: rest => do
    let span ← cut start stop item
    return ⟨target, some span, none, ← readEnd item (stop + 1) rest⟩
  | '\x7b' :: inside => do
    let span ← cut start stop item
    let field := inside.takeWhile (· != '\x7d')
    let fieldStop := stop + 1 + Text.utf8Length field
    match inside.drop field.length with
    | '\x7d' :: rest =>
      let test ← readField (← cut (stop + 1) fieldStop item)
      match rest with
      | ']' :: rest =>
        let threshold ← readEnd item (fieldStop + 2) rest
        return ⟨target, if span.isEmpty then none else some span, some test, threshold⟩
      | _ => refuse .malformed
    | _ => refuse .malformed
  | _ => refuse .malformed

/-- Targets begin with a letter, a number or one of three signs. Anything may follow. -/
def startsTarget (c : Char) : Bool :=
  c == '-' || c == ':' || c == '_' || Text.isLetterOrNumber c

/-- Reads an item. One that is only a target or only a level has no other parts; if it is no level,
    it is a target of which everything is shown. The places of the parts are found in the item without
    the blanks around it, but the parts are cut from the item as it is, so that blanks in front of an
    item shift all its parts. -/
def ofItem (item : List Char) : Except ItemError Directive :=
  match Text.trim item with
  | [] => refuse .malformed
  | '[' :: text => readSpan item [] 1 text
  | c :: cs =>
    let name := (c :: cs).takeWhile fun c => c != '=' && c != '['
    let stop := Text.utf8Length name
    if !startsTarget c then
      refuse .malformed
    else
      match (c :: cs).drop name.length with
      | '=' :: _ => do
        let target ← cut 0 stop item
        return ⟨target, none, none, ← readLevel item (stop + 1)⟩
      | '[' :: text => do
        readSpan item (← cut 0 stop item) (stop + 1) text
      | _ =>
        match Threshold.ofText? item with
        | some threshold => .ok (general threshold)
        | none => .ok ⟨item, none, none, some .trace⟩

end Directive

end TreeDump
