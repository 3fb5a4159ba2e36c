import TreeDump.Log.Directive
import TreeDump.Log.Reader

namespace TreeDump

structure Filter where
  directives : List Directive

namespace Filter

/-- Without any directive, errors alone are shown. -/
def ofDirectives (directives : List Directive) : Filter :=
  if directives.isEmpty then ⟨[.general (some .error)]⟩ else ⟨directives⟩

/-- Of equals the later directive prevails. -/
def prevailing : List Directive → Option Directive
  | [] => none
  | d :: ds =>
    match prevailing ds with
    | none => some d
    | some later => if d.outranks later then some d else some later

/-- What is shown of events like this one. -/
def threshold (filter : Filter) (event : Event) : Threshold :=
  match prevailing (filter.directives.filter (·.selects event)) with
  | none => none
  | some directive => directive.threshold

def shows (filter : Filter) (event : Event) : Bool :=
  (filter.threshold event).admits event.level

/-- The lines of the log for the events that are shown, in order. -/
def lines (filter : Filter) (events : List Event) : List String :=
  (events.filter filter.shows).map Event.text

/-- What stands between the commas of a text. There is always one more piece than there are
    commas. -/
def pieces : List Char → List (List Char)
  | [] => [[]]
  | ',' :: text => [] :: pieces text
  | c :: text => (pieces text).modifyHead (c :: ·)

/-- The items of a list separated by commas. Empty ones do not count. -/
def items (text : String) : List String :=
  ((pieces text.toList).filter (!·.isEmpty)).map String.ofList

/-- Reads a filter of which every item has to be a directive. The first that is none decides the
    error. -/
def ofText (text : String) : Except ItemError Filter :=
  ((items text).mapM fun item => Directive.ofItem item.toList).map ofDirectives

/-- The note on an item that is no directive. -/
def note (item : String) (error : DirectiveError) : String :=
  "ignoring `" ++ item ++ "`: " ++ error.message

/-- The directives among some items, and the notes on the others. -/
def readItems : List String → Except Fault (List Directive × List String)
  | [] => .ok ([], [])
  | item :: items =>
    match Directive.ofItem item.toList with
    | .ok directive => (readItems items).map fun (ds, notes) => (directive :: ds, notes)
    | .error (.refused error) => (readItems items).map fun (ds, notes) => (ds, note item error :: notes)
    | .error (.fault fault) => .error fault

/-- Reads filters from lists of directives. -/
def reader : FilterReader String where
  readWhole text :=
    match ofText text with
    | .ok filter => .ok (some ⟨[], filter.lines⟩)
    | .error (.refused _) => .ok none
    | .error (.fault fault) => .error fault
  readParts text :=
    (readItems (items text)).map fun (ds, notes) => ⟨notes, (ofDirectives ds).lines⟩

/-- Some filter is chosen, be it one from which items were left out. -/
def Readable (preferred : Option String) (fallback : String) : Prop :=
  ∃ filter, reader.choose preferred fallback = .ok filter

/-- The filter that is used where none is given. -/
theorem readable_default : Readable none "warn" :=
  ⟨_, rfl⟩

end Filter

end TreeDump
