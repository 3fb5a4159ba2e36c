import TreeDump.Fault
import TreeDump.Log.Event

namespace TreeDump

/-- A filter as a run knows it, whatever it was read from. -/
structure EventFilter where
  /-- What is said about the text it was read from, before any event. -/
  notes : List String
  /-- The lines of the log for some events. -/
  lines : List Event → List String

/-- The filter leaves events out and does nothing else to the log. -/
def EventFilter.OnlySuppresses (filter : EventFilter) : Prop :=
  ∀ events, (filter.lines events).Sublist (events.map Event.text)

/-- The two ways of reading a filter. A setting from outside is read as a whole or not at all, a text
    among the arguments as far as it can be read. -/
structure FilterReader (ε : Type) where
  readWhole : ε → Except Fault (Option EventFilter)
  readParts : String → Except Fault EventFilter

namespace FilterReader

variable {ε : Type}

/-- The setting from outside is used if it is there and can be read, the text otherwise. -/
def choose (reader : FilterReader ε) (outside : Option ε) (fallback : String) :
    Except Fault EventFilter :=
  match outside with
  | none => reader.readParts fallback
  | some setting => do
    match ← reader.readWhole setting with
    | some filter => return filter
    | none => reader.readParts fallback

/-- No setting and no text stops a run, and what is read from them only suppresses events. -/
structure OnlySuppresses (reader : FilterReader ε) : Prop where
  readWhole : ∀ setting, ∃ filter?, reader.readWhole setting = .ok filter? ∧
    ∀ filter ∈ filter?, filter.OnlySuppresses
  readParts : ∀ text, ∃ filter, reader.readParts text = .ok filter ∧ filter.OnlySuppresses

/-- Then there is always a filter. -/
theorem OnlySuppresses.exists_choose_eq_ok {reader : FilterReader ε} (hreader : reader.OnlySuppresses)
    (outside : Option ε) (fallback : String) :
    ∃ filter, reader.choose outside fallback = .ok filter ∧ filter.OnlySuppresses := by
  cases outside with
  | none => exact hreader.readParts fallback
  | some setting =>
    obtain ⟨filter?, hwhole, hsuppresses⟩ := hreader.readWhole setting
    cases filter? with
    | none =>
      obtain ⟨filter, hparts, hfilter⟩ := hreader.readParts fallback
      exact ⟨filter, by simp [FilterReader.choose, hwhole, hparts, bind, Except.bind], hfilter⟩
    | some filter =>
      have hchoose : reader.choose (some setting) fallback = .ok filter := by
        simp [FilterReader.choose, hwhole, bind, Except.bind, pure, Except.pure]
      exact ⟨filter, hchoose, hsuppresses filter rfl⟩

end FilterReader

end TreeDump
