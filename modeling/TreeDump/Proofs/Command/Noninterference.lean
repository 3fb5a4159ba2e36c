import TreeDump.Log.Threshold
import TreeDump.Proofs.Command.Conduct

namespace TreeDump

/-- Shows the events up to a threshold. -/
def EventFilter.upTo (threshold : Threshold) : EventFilter where
  notes := []
  lines events := (events.filter fun event => threshold.admits event.level).map Event.text

theorem EventFilter.upTo_onlySuppresses (threshold : Threshold) :
    (upTo threshold).OnlySuppresses :=
  fun _ => List.filter_sublist.map Event.text

/-- Reads thresholds and nothing else. A text that is none stands for errors alone. -/
def FilterReader.thresholds : FilterReader String where
  readWhole text := .ok ((Threshold.ofText? text.toList).map .upTo)
  readParts text := .ok (.upTo ((Threshold.ofText? text.toList).getD (some .error)))

theorem FilterReader.thresholds_onlySuppresses : thresholds.OnlySuppresses where
  readWhole text := by
    refine ⟨_, rfl, ?_⟩
    intro filter hfilter
    obtain ⟨threshold, _, rfl⟩ := Option.map_eq_some_iff.mp hfilter
    exact EventFilter.upTo_onlySuppresses threshold
  readParts text := ⟨_, rfl, EventFilter.upTo_onlySuppresses _⟩

namespace Command

/-- With any reader of filters that only suppress events, the run shows a part of what happens, and
    what happens is the same whatever the filter. -/
theorem runWith_of_onlySuppresses {ε : Type} {reader : FilterReader ε}
    (hreader : reader.OnlySuppresses) {arguments : List String} {options : Options}
    (hdump : Request.ofArguments arguments = .ok (.dump options)) (outside : Option ε)
    (condition : Condition) :
    let fixed := conduct condition options.depth options.root options.indent
    let outcome := runWith reader arguments outside condition.device
    outcome.output = fixed.output ∧ outcome.exitCode = fixed.exitCode ∧
      outcome.log.Sublist (fixed.events.map Event.text) := by
  intro fixed outcome
  obtain ⟨filter, hfilter, hsuppresses⟩ := hreader.exists_choose_eq_ok outside options.logLevel
  have houtcome : outcome = _ := runWith_eq hdump hfilter condition
  rw [houtcome]
  exact ⟨rfl, rfl, hsuppresses fixed.events⟩

/-- Logging does not interfere with the dump. Two runs whose arguments are accepted and ask for the
    same dump leave the same output and exit alike, whatever filters they are given among the arguments
    and outside them, also where they are cut short by a fault. The log of either is a part of the one
    list of events that the dump and the condition of the output determine. All that is asked of the
    filters is that they suppress events and do nothing else. -/
theorem logging_does_not_interfere {ε : Type} {reader : FilterReader ε}
    (hreader : reader.OnlySuppresses) {arguments arguments' : List String}
    {options options' : Options} (hdump : Request.ofArguments arguments = .ok (.dump options))
    (hdump' : Request.ofArguments arguments' = .ok (.dump options'))
    (hdepth : options'.depth = options.depth) (hroot : options'.root = options.root)
    (hindent : options'.indent = options.indent) (outside outside' : Option ε)
    (condition : Condition) :
    let first := runWith reader arguments outside condition.device
    let second := runWith reader arguments' outside' condition.device
    let fixed := conduct condition options.depth options.root options.indent
    first.output = second.output ∧ first.exitCode = second.exitCode ∧
      first.output = fixed.output ∧ first.exitCode = fixed.exitCode ∧
      first.log.Sublist (fixed.events.map Event.text) ∧
      second.log.Sublist (fixed.events.map Event.text) := by
  intro first second fixed
  obtain ⟨houtput, hexit, hlog⟩ := runWith_of_onlySuppresses hreader hdump outside condition
  obtain ⟨houtput', hexit', hlog'⟩ := runWith_of_onlySuppresses hreader hdump' outside' condition
  rw [hdepth, hroot, hindent] at houtput' hexit' hlog'
  exact ⟨houtput.trans houtput'.symm, hexit.trans hexit'.symm, houtput, hexit, hlog, hlog'⟩

/-- All of the log, chosen from outside, and nothing of it, chosen among the arguments. -/
theorem logging_does_not_interfere_from_debug_to_off :
    let first := runWith .thresholds [] (some "debug") .unlimited
    let second := runWith .thresholds ["--log-level", "off"] none .unlimited
    Request.ofArguments [] = .ok (.dump ⟨.ofUInt32 1, .program, 2, "warn"⟩) ∧
      Request.ofArguments ["--log-level", "off"] =
        .ok (.dump ⟨.ofUInt32 1, .program, 2, "off"⟩) ∧
      first.output = second.output ∧ first.exitCode = 0 ∧ second.exitCode = 0 := by
  intro first second
  have hdump : Request.ofArguments [] = .ok (.dump ⟨.ofUInt32 1, .program, 2, "warn"⟩) := rfl
  have hdump' : Request.ofArguments ["--log-level", "off"] =
      .ok (.dump ⟨.ofUInt32 1, .program, 2, "off"⟩) := rfl
  obtain ⟨houtput, hexit, _, hfixed, _⟩ := logging_does_not_interfere
    FilterReader.thresholds_onlySuppresses hdump hdump' rfl rfl rfl (some "debug") none .writable
  have hoffsets : ∀ line ∈ Root.program.subject.layout, line.offset ≤ 6 := by decide
  have hroom : HasRoom .standard (.ofUInt32 1) Root.program.subject :=
    .of_fits hoffsets (by decide)
  have hstandard : Indent.ofWidth 2 = .ok .standard := rfl
  have hzero : (conduct .writable (.ofUInt32 1) .program 2).exitCode = 0 := by
    simp [conduct, hstandard, hroom]
  have hfirst : first.exitCode = 0 := hfixed.trans hzero
  exact ⟨hdump, hdump', houtput, hfirst, hexit.symm.trans hfirst⟩

/-- A run is cut short after the start of the dump if the indentation of the first line is too wide,
    although one level of it is not. It leaves nothing on the output, be that writable or full, and
    says no more in the log, whatever the filter. -/
theorem runWith_of_maxWidth_lt {ε : Type} {reader : FilterReader ε}
    (hreader : reader.OnlySuppresses) {arguments : List String} {options : Options}
    (hdump : Request.ofArguments arguments = .ok (.dump options))
    (hwidth : options.indent ≤ Indent.maxWidth)
    (htotal : Indent.maxWidth < options.indent * options.depth.level) (outside : Option ε)
    (condition : Condition) :
    let outcome := runWith reader arguments outside condition.device
    outcome.output = .empty ∧ outcome.exitCode = 101 ∧
      outcome.log.Sublist
        [builtSample.text, (Event.started options.root.subject.kind options.depth).text] := by
  have hrun := runWith_of_onlySuppresses hreader hdump outside condition
  rw [conduct_of_maxWidth_lt hwidth htotal] at hrun
  exact hrun

example :
    Request.ofArguments ["--depth", "4294967295", "--indent", "2147483649"] =
        .ok (.dump ⟨⟨Depth.limit, by decide⟩, .program, 2147483649, "warn"⟩) ∧
      2147483649 ≤ Indent.maxWidth ∧ Indent.maxWidth < 2147483649 * Depth.limit :=
  ⟨rfl, by decide, by decide⟩

end Command

end TreeDump
