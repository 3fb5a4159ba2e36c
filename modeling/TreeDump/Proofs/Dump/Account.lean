import TreeDump.Proofs.Dump.Step

namespace TreeDump

/-- The lines that are offered while these answers come in: after an acceptance the next line, after
    a refusal none. -/
def Sink.offered : List String → List (Option SinkError) → List String
  | line :: lines, none :: answers => line :: offered lines answers
  | line :: _, some _ :: _ => [line]
  | [], _ => []
  | _, [] => []

theorem Sink.offered_map_accepted (lines : List String) :
    Sink.offered lines ((lines.map Call.accepted).map (·.refusal?)) = lines := by
  induction lines with
  | nil => rfl
  | cons line lines ih =>
    change line :: Sink.offered lines ((lines.map Call.accepted).map (·.refusal?)) = _
    rw [ih]

theorem Sink.offered_refusedAt {lines : List String} {index : Nat} (hindex : index < lines.length)
    (source : SinkError) :
    Sink.offered lines ((Call.refusedAt lines index source).map (·.refusal?)) =
      lines.take (index + 1) := by
  induction index generalizing lines with
  | zero =>
    cases lines with
    | nil => cases hindex
    | cons line lines => rfl
  | succ index ih =>
    cases lines with
    | nil => cases hindex
    | cons line lines =>
      change line :: Sink.offered lines ((Call.refusedAt lines index source).map (·.refusal?)) = _
      rw [ih (Nat.lt_of_succ_lt_succ hindex), List.take_succ_cons]

namespace DumpStep

variable {σ : Type}

/-- The events of a step that wrote so many lines and ended with the error, if any. -/
def events (step : DumpStep) (written : Nat) : Option DumpError → List Event
  | none => step.opening ++ step.closing written
  | some (.write line source) => step.opening ++ [.rejected line source]
  | some (.flush _) => step.opening

/-- What one step of a run adds to it: the calls `own` after the calls `earlier` of the steps before
    it, and its events after those already logged. -/
structure Account (indent : Indent) (step : DumpStep) (earlier own : List Call)
    (logged : List Event) (result : DumpResult (Recorded σ)) : Prop where
  calls_eq : result.state.sink.calls = earlier ++ own
  /-- Only the node, the depth, the indent and the answers to its own calls decide what is
      offered. -/
  offered_eq : own.map (·.line) = Sink.offered (step.lines indent) (own.map (·.refusal?))
  /-- A step stops early only because of a refusal. -/
  complete : Call.firstRefusal? own = none → own.map (·.line) = step.lines indent
  /-- Every line ever accepted is counted, and no other. -/
  lines_eq : result.state.lines = Call.countAccepted (earlier ++ own)
  /-- The error is that of the refused call, and tells how many lines of the whole run came
      before. -/
  error_eq : result.error? =
    (Call.firstRefusal? own).map (.write (Call.countAccepted (earlier ++ own)))
  log_eq : result.state.log.toList = logged ++ step.events (Call.countAccepted own) result.error?

/-- Runs the steps one after the other, each in the state that the step before it left, failed or
    not. -/
def runAll [Sink σ] : List DumpStep → DumpState σ → List (DumpResult σ)
  | [], _ => []
  | step :: steps, state =>
    let result : DumpResult σ := step.run state
    result :: runAll steps result.state

/-- Each step of a run, after the calls made and the events logged before it, keeps its account. -/
inductive Accounts (indent : Indent) :
    List Call → List Event → List DumpStep → List (DumpResult (Recorded σ)) → Prop where
  | nil (earlier : List Call) (logged : List Event) : Accounts indent earlier logged [] []
  | cons {earlier own : List Call} {logged : List Event} {step : DumpStep} {steps : List DumpStep}
      {result : DumpResult (Recorded σ)} {results : List (DumpResult (Recorded σ))}
      (hstep : Account indent step earlier own logged result)
      (htail : Accounts indent (earlier ++ own)
        (logged ++ step.events (Call.countAccepted own) result.error?) steps results) :
      Accounts indent earlier logged (step :: steps) (result :: results)

variable [Sink σ]

/-- A step keeps its account in every state that counts the accepted calls, and leaves such a
    state. -/
theorem exists_account (step : DumpStep) (state : DumpState (Recorded σ))
    (hlines : state.lines = Call.countAccepted state.sink.calls) :
    let result : DumpResult (Recorded σ) := step.run state
    result.state.indent = state.indent ∧
      ∃ own, Account state.indent step state.sink.calls own state.log.toList result := by
  intro result
  obtain ⟨⟨sink, earlier⟩, indent, count, log⟩ := state
  obtain rfl : count = Call.countAccepted earlier := hlines
  obtain ⟨last, htakes⟩ | ⟨index, source, last, hrefuses⟩ :=
    Sink.takes_or_refuses (step.lines indent) sink
  · have hresult : result = .ok () _ := run_of_takes (htakes.recorded earlier) _ log
    rw [hresult]
    refine ⟨rfl, (step.lines indent).map .accepted, ?_⟩
    exact {
      calls_eq := rfl
      offered_eq := by rw [Call.lines_map_accepted, Sink.offered_map_accepted]
      complete := fun _ => Call.lines_map_accepted _
      lines_eq := by
        rw [Call.countAccepted_append, Call.countAccepted_map_accepted]
        rfl
      error_eq := by
        rw [Call.firstRefusal?_map_accepted]
        rfl
      log_eq := by
        rw [Call.countAccepted_map_accepted]
        exact Array.toList_appendList }
  · have hindex := hrefuses.index_lt
    have hcount := Call.countAccepted_refusedAt hindex source
    have hrefusal := Call.firstRefusal?_refusedAt hindex source
    have hresult : result = .error _ _ := run_of_refuses (hrefuses.recorded earlier) _ log
    rw [hresult]
    refine ⟨rfl, Call.refusedAt (step.lines indent) index source, ?_⟩
    exact {
      calls_eq := rfl
      offered_eq := by rw [Call.lines_refusedAt, Sink.offered_refusedAt hindex]
      complete := fun hnone => by
        rw [hrefusal] at hnone
        cases hnone
      lines_eq := by
        rw [Call.countAccepted_append, hcount]
        rfl
      error_eq := by
        rw [hrefusal, Call.countAccepted_append, hcount]
        rfl
      log_eq := Array.toList_appendList }

/-- From one step to a run: the state that a step leaves counts the accepted calls again. -/
theorem accounts_runAll (steps : List DumpStep) (state : DumpState (Recorded σ))
    (hlines : state.lines = Call.countAccepted state.sink.calls) :
    Accounts state.indent state.sink.calls state.log.toList steps (runAll steps state) := by
  induction steps generalizing state with
  | nil => exact .nil _ _
  | cons step steps ih =>
    obtain ⟨hindent, own, haccount⟩ := exists_account step state hlines
    refine .cons haccount ?_
    rw [← hindent, ← haccount.calls_eq, ← haccount.log_eq]
    apply ih
    rw [haccount.lines_eq, haccount.calls_eq]

theorem map_unrecorded_runAll (steps : List DumpStep) (state : DumpState (Recorded σ)) :
    (runAll steps state).map DumpResult.unrecorded = runAll steps state.unrecorded := by
  induction steps generalizing state with
  | nil => rfl
  | cons step steps ih =>
    have hresult : DumpResult.unrecorded (step.run state) = step.run state.unrecorded :=
      unrecorded_run step state
    have hstate : (DumpResult.unrecorded (step.run state)).state =
        (DumpResult.state (step.run state)).unrecorded := by
      cases step.run state <;> rfl
    rw [runAll, runAll, List.map_cons, ih, hresult, ← hstate, hresult]

/-- In every run that begins with nothing written, every step keeps its account: the count is the
    number of calls accepted since the beginning, an error tells that number for the refused line,
    the offered lines depend on nothing before the step, and the log grows by the events of the
    step. The record by which the calls are known has no influence on the run. -/
theorem runAll_keeps_accounts (steps : List DumpStep) (sink : σ) (indent : Indent) :
    let results := runAll steps (.start (⟨sink, []⟩ : Recorded σ) indent)
    results.map DumpResult.unrecorded = runAll steps (.start sink indent) ∧
      Accounts indent [] [] steps results :=
  ⟨map_unrecorded_runAll steps _, accounts_runAll steps (.start ⟨sink, []⟩ indent) rfl⟩

end DumpStep

end TreeDump
