import Mathlib.Data.List.Induction
import TreeDump.Proofs.Sink.Writers

namespace TreeDump

namespace Call

/-- The lines of the calls that were accepted. -/
def acceptedLines (calls : List Call) : List String :=
  (calls.filter (·.refusal?.isNone)).map (·.line)

theorem acceptedLines_append_accepted (calls : List Call) (line : String) :
    acceptedLines (calls ++ [accepted line]) = acceptedLines calls ++ [line] := by
  rw [acceptedLines, List.filter_append, List.map_append]
  rfl

theorem acceptedLines_append_refused (calls : List Call) (line : String) (source : SinkError) :
    acceptedLines (calls ++ [refused line source]) = acceptedLines calls := by
  rw [acceptedLines, List.filter_append, List.map_append]
  exact List.append_nil _

end Call

namespace Sink

variable {σ : Type} [Sink σ]

/-- The state that is left when the line is offered, taken or not. -/
def offer (line : String) (sink : σ) : σ :=
  match Sink.accept line sink with
  | .ok _ next => next
  | .error _ next => next

/-- Offers the lines one after the other, whatever the answers are. -/
def offerAll (lines : List String) (sink : σ) : σ :=
  lines.foldl (fun sink line => offer line sink) sink

variable {line : String} {lines : List String} {sink next last : σ}

theorem offer_of_ok (haccept : Sink.accept line sink = .ok () next) : offer line sink = next := by
  rw [offer, haccept]

theorem offer_of_error {source : SinkError} (hrefusal : Sink.accept line sink = .error source next) :
    offer line sink = next := by
  rw [offer, hrefusal]

theorem offerAll_append (first second : List String) (sink : σ) :
    offerAll (first ++ second) sink = offerAll second (offerAll first sink) :=
  List.foldl_append

theorem offerAll_append_singleton (lines : List String) (line : String) (sink : σ) :
    offerAll (lines ++ [line]) sink = offer line (offerAll lines sink) :=
  offerAll_append lines [line] sink

theorem Takes.offerAll_eq (htakes : Takes lines sink last) : offerAll lines sink = last := by
  induction htakes with
  | nil sink => rfl
  | cons haccept _ ih =>
    rw [offerAll, List.foldl_cons, offer_of_ok haccept]
    exact ih

theorem Refuses.offerAll_take_eq {index : Nat} {source : SinkError}
    (hrefuses : Refuses lines sink index source last) : offerAll (lines.take (index + 1)) sink = last := by
  obtain ⟨line, before, hline, htakes, hrefusal⟩ := hrefuses
  rw [List.take_add_one, hline, Option.toList_some, offerAll_append_singleton, htakes.offerAll_eq,
    offer_of_error hrefusal]

/-- Going on after a refusal means to go on with the state that it leaves. -/
theorem Refuses.offerAll_eq {index : Nat} {source : SinkError}
    (hrefuses : Refuses lines sink index source last) :
    offerAll lines sink = offerAll (lines.drop (index + 1)) last := by
  calc offerAll lines sink
      = offerAll (lines.take (index + 1) ++ lines.drop (index + 1)) sink := by
        rw [List.take_append_drop]
    _ = offerAll (lines.drop (index + 1)) last := by rw [offerAll_append, hrefuses.offerAll_take_eq]

/-- A record of the calls changes nothing for the sink, and every offer is one call. -/
theorem sink_offerAll_recorded (lines : List String) (state : Recorded σ) :
    (offerAll lines state).sink = offerAll lines state.sink ∧
      (offerAll lines state).calls.map (·.line) = state.calls.map (·.line) ++ lines := by
  induction lines generalizing state with
  | nil => exact ⟨rfl, (List.append_nil _).symm⟩
  | cons line lines ih =>
    obtain ⟨sink, calls⟩ := state
    have hoffer : (offer line (⟨sink, calls⟩ : Recorded σ)).sink = offer line sink ∧
        (offer line (⟨sink, calls⟩ : Recorded σ)).calls.map (·.line) = calls.map (·.line) ++ [line] := by
      cases haccept : Sink.accept line sink with
      | ok _ next =>
        rw [offer_of_ok (Recorded.accept_of_ok haccept calls), offer_of_ok haccept, List.map_append]
        exact ⟨rfl, rfl⟩
      | error source next =>
        rw [offer_of_error (Recorded.accept_of_error haccept calls), offer_of_error haccept,
          List.map_append]
        exact ⟨rfl, rfl⟩
    obtain ⟨hsink, hcalls⟩ := ih (offer line ⟨sink, calls⟩)
    rw [hoffer.1] at hsink
    rw [hoffer.2, List.append_assoc] at hcalls
    exact ⟨hsink, hcalls⟩

variable {capacity : Option Nat} {Keeps : σ → List UInt8 → Prop}
  {residue : List UInt8 → String → List UInt8} {Cause : SinkError → Prop}

/-- One more line is recorded as accepted if it fits with its end, and else as refused. -/
theorem FillsUp.offer (hsink : FillsUp capacity Keeps residue Cause) {kept : List UInt8}
    (hkeeps : Keeps sink kept) (line : String) (calls : List Call) :
    (Within capacity (kept ++ utf8 (line ++ "\n")).length ∧
        ∃ next, Sink.offer line (⟨sink, calls⟩ : Recorded σ) = ⟨next, calls ++ [.accepted line]⟩ ∧
          Keeps next (kept ++ utf8 (line ++ "\n"))) ∨
      ¬ Within capacity (kept ++ utf8 (line ++ "\n")).length ∧
        ∃ source next, Cause source ∧
          Sink.offer line (⟨sink, calls⟩ : Recorded σ) = ⟨next, calls ++ [.refused line source]⟩ ∧
          Keeps next (residue kept line) := by
  by_cases hwithin : Within capacity (kept ++ utf8 (line ++ "\n")).length
  · obtain ⟨next, haccept, hnext⟩ := hsink.accept_of_within hkeeps hwithin
    exact .inl ⟨hwithin, next, offer_of_ok (Recorded.accept_of_ok haccept calls), hnext⟩
  · obtain ⟨source, next, hrefusal, hcause, hnext⟩ := hsink.accept_of_not_within hkeeps hwithin
    exact .inr ⟨hwithin, source, next, hcause,
      offer_of_error (Recorded.accept_of_error hrefusal calls), hnext⟩

end Sink

/-- What was cut off at the capacity uses it up. -/
theorem not_within_length_upTo_succ {capacity : Option Nat} {bytes : List UInt8}
    (hnot : ¬ Within capacity bytes.length) : ¬ Within capacity ((upTo capacity bytes).length + 1) := by
  cases capacity with
  | none => simp at hnot
  | some most =>
    rw [Within.some_iff] at hnot ⊢
    rw [upTo, List.length_take]
    omega

namespace ByteSink

variable {ω : Type} [ByteWriter ω] {capacity : Option Nat} {Keeps : ω → List UInt8 → Prop}
  {sink : ByteSink ω} {kept : List UInt8}

/-- A full device takes no line, not even an empty one: there is no room for its end. -/
theorem offerAll_of_full (hwriter : ByteWriter.FillsUp capacity Keeps) (hkept : Keeps sink.writer kept)
    (hfull : ¬ Within capacity (kept.length + 1)) (lines : List String) (calls : List Call) :
    ∃ refusals last, Sink.offerAll lines (⟨sink, calls⟩ : Recorded (ByteSink ω)) =
        ⟨last, calls ++ refusals⟩ ∧
      (∀ call ∈ refusals, ∃ error, call.refusal? = some (.device error)) ∧ Keeps last.writer kept := by
  induction lines generalizing sink calls with
  | nil => exact ⟨[], sink, by rw [List.append_nil]; rfl, List.forall_mem_nil _, hkept⟩
  | cons line lines ih =>
    obtain ⟨hwithin, _⟩ | ⟨_, _, next, ⟨error, rfl⟩, hoffer, hnext⟩ :=
      (fillsUp hwriter).offer hkept line calls
    · refine absurd (hwithin.mono ?_) hfull
      rw [utf8_append, List.length_append, List.length_append]
      exact Nat.add_le_add_left (Nat.le_add_left _ _) _
    · rw [residue, upTo_append_of_full (hwriter.within hkept) hfull] at hnext
      obtain ⟨refusals, last, hlast, hrefusals, hkeeps⟩ := ih hnext (calls ++ [.refused line (.device error)])
      refine ⟨.refused line (.device error) :: refusals, last, ?_, ?_, hkeeps⟩
      · rw [Sink.offerAll, List.foldl_cons, hoffer, ← Sink.offerAll, hlast, List.append_assoc]
        rfl
      · exact List.forall_mem_cons.mpr ⟨⟨error, rfl⟩, hrefusals⟩

/-- A device takes the lines that fit and refuses all others, and comes to keep the same bytes as if
    it had been offered all lines at once. -/
theorem offerAll_eq (hwriter : ByteWriter.FillsUp capacity Keeps) (hkept : Keeps sink.writer [])
    (lines : List String) :
    ∃ count refusals last, Fitting capacity lines count ∧
      Sink.offerAll lines (⟨sink, []⟩ : Recorded (ByteSink ω)) =
        ⟨last, (lines.take count).map .accepted ++ refusals⟩ ∧
      (∀ call ∈ refusals, ∃ error, call.refusal? = some (.device error)) ∧
      Keeps last.writer (upTo capacity (utf8 (terminated lines))) := by
  have hsink := fillsUp hwriter
  obtain ⟨count, hcount⟩ := exists_fitting capacity lines
  obtain ⟨rfl, hwithin⟩ | ⟨line, hline, hbefore, hnot⟩ := hcount.all_or_next
  · obtain ⟨last, htakes, hlast⟩ := hsink.takes hkept hwithin
    refine ⟨lines.length, [], last, hcount, ?_, List.forall_mem_nil _, ?_⟩
    · rw [(htakes.recorded []).offerAll_eq, List.take_length, List.append_nil]
      rfl
    · rw [← length_utf8] at hwithin
      rwa [upTo_of_within hwithin]
  · obtain ⟨_, next, hrefuses, ⟨error, rfl⟩, hnext⟩ := hsink.refuses hkept hline hbefore hnot
    rw [residue, ← utf8_append, ← terminated_take_succ hline] at hnext
    obtain ⟨refusals, last, hoffers, hrefusals, hlast⟩ := offerAll_of_full hwriter hnext
      (not_within_length_upTo_succ hnot) (lines.drop (count + 1))
      ([] ++ Call.refusedAt lines count (.device error))
    refine ⟨count, .refused line (.device error) :: refusals, last, hcount, ?_, ?_, ?_⟩
    · rw [(hrefuses.recorded []).offerAll_eq, hoffers, Call.refusedAt, hline, List.nil_append,
        List.append_assoc]
      rfl
    · exact List.forall_mem_cons.mpr ⟨⟨error, rfl⟩, hrefusals⟩
    · rw [← length_utf8] at hnot
      rwa [utf8_terminated_eq_take_append lines (count + 1), upTo_append_of_not_within hnot]

end ByteSink

namespace TextSink

variable {ω : Type} [TextWriter ω] {capacity : Option Nat} {Keeps : ω → String → Prop}
  {sink : TextSink ω} {kept : String}

/-- A line that is refused is not kept, or its text is kept and uses the capacity up. -/
theorem offer_eq (hwriter : TextWriter.KeepsWhole capacity Keeps) (hkept : Keeps sink.writer kept)
    (line : String) (calls : List Call) :
    (Within capacity (kept ++ (line ++ "\n")).utf8ByteSize ∧
        ∃ next, Sink.offer line (⟨sink, calls⟩ : Recorded (TextSink ω)) =
            ⟨next, calls ++ [.accepted line]⟩ ∧
          Keeps next.writer (kept ++ (line ++ "\n"))) ∨
      ¬ Within capacity (kept ++ (line ++ "\n")).utf8ByteSize ∧
        ∃ next more, Sink.offer line (⟨sink, calls⟩ : Recorded (TextSink ω)) =
            ⟨next, calls ++ [.refused line .format]⟩ ∧
          Keeps next.writer (kept ++ more) ∧
          (more = "" ∨ more = line ∧ capacity = some (kept ++ more).utf8ByteSize) := by
  have hbytes : ∃ text, Keeps sink.writer text ∧ utf8 text = utf8 kept := ⟨kept, hkept, rfl⟩
  obtain ⟨hwithin, next, hoffer, text, htext, heq⟩ | ⟨hnot, _, next, rfl, hoffer, text, htext, heq⟩ :=
    (fillsUp hwriter).offer hbytes line calls
  · rw [← utf8_append] at hwithin heq
    rw [utf8_inj.mp heq] at htext
    exact .inl ⟨hwithin, next, hoffer, htext⟩
  · rw [← utf8_append] at hnot
    refine .inr ⟨hnot, next, ?_⟩
    rw [residue] at heq
    by_cases hfits : Within capacity (utf8 kept ++ utf8 line).length
    · rw [if_pos hfits, ← utf8_append] at heq
      rw [utf8_inj.mp heq] at htext
      -- What is missing of the line is the one byte of its end.
      rw [← String.append_assoc, utf8_append, List.length_append] at hnot
      rw [← utf8_append] at hfits
      exact ⟨line, hoffer, htext, .inr ⟨rfl, hfits.eq_some_of_not_succ hnot⟩⟩
    · rw [if_neg hfits] at heq
      rw [utf8_inj.mp heq] at htext
      exact ⟨"", hoffer, by rwa [String.append_empty], .inl rfl⟩

/-- What a text keeps behind the accepted lines: nothing, or a line without its end that uses the
    capacity up, after which every line was refused. -/
def Remains (capacity : Option Nat) (calls : List Call) (tail : String) : Prop :=
  tail = "" ∨
    capacity = some (terminated (Call.acceptedLines calls) ++ tail).utf8ByteSize ∧
      ∃ earlier later, calls = earlier ++ .refused tail .format :: later ∧
        ∀ call ∈ later, call.refusal? = some .format

/-- Behind a line without its end nothing more is kept, so it stays the last. -/
theorem Remains.append_refused {calls : List Call} {tail more line : String}
    (hremains : Remains capacity calls tail)
    (hmore : more = "" ∨
      more = line ∧ capacity = some (terminated (Call.acceptedLines calls) ++ tail ++ more).utf8ByteSize) :
    Remains capacity (calls ++ [.refused line .format]) (tail ++ more) := by
  have haccepted := Call.acceptedLines_append_refused calls line .format
  unfold Remains
  obtain rfl | ⟨hfull, earlier, later, hcalls, hlater⟩ := hremains
  · rw [String.empty_append, haccepted]
    obtain hnone | ⟨rfl, hcapacity⟩ := hmore
    · exact .inl hnone
    · rw [String.append_empty] at hcapacity
      exact .inr ⟨hcapacity, calls, [], rfl, List.forall_mem_nil _⟩
  · have hnone : more = "" := by
      obtain hnone | ⟨_, hcapacity⟩ := hmore
      · exact hnone
      · have hsum : (terminated (Call.acceptedLines calls) ++ tail ++ more).utf8ByteSize =
            (terminated (Call.acceptedLines calls) ++ tail).utf8ByteSize + more.utf8ByteSize :=
          String.utf8ByteSize_append
        rw [hfull, Option.some_inj, hsum] at hcapacity
        exact String.utf8ByteSize_eq_zero_iff.mp (Nat.left_eq_add.mp hcapacity)
    rw [hnone, String.append_empty, haccepted]
    refine .inr ⟨hfull, earlier, later ++ [.refused line .format], ?_, ?_⟩
    · rw [hcalls, List.append_assoc, List.cons_append]
    · exact List.forall_mem_append.mpr ⟨hlater, List.forall_mem_singleton.mpr rfl⟩

/-- By induction from the last line: what was kept before it shows whether it can be accepted. -/
theorem offerAll_eq (hwriter : TextWriter.KeepsWhole capacity Keeps) (hkept : Keeps sink.writer "")
    (lines : List String) :
    ∃ calls last tail, Sink.offerAll lines (⟨sink, []⟩ : Recorded (TextSink ω)) = ⟨last, calls⟩ ∧
      Keeps last.writer (terminated (Call.acceptedLines calls) ++ tail) ∧
      Remains capacity calls tail := by
  induction lines using List.reverseRecOn with
  | nil => exact ⟨[], sink, "", rfl, hkept, .inl rfl⟩
  | append_singleton lines line ih =>
    obtain ⟨calls, last, tail, hlast, hkeeps, hremains⟩ := ih
    rw [Sink.offerAll_append_singleton, hlast]
    obtain ⟨hwithin, next, hoffer, hnext⟩ | ⟨_, next, more, hoffer, hnext, hmore⟩ :=
      offer_eq hwriter hkeeps line calls
    · obtain rfl | ⟨hfull, _⟩ := hremains
      · refine ⟨_, next, "", hoffer, ?_, .inl rfl⟩
        rw [Call.acceptedLines_append_accepted, terminated_append, terminated_cons, terminated_nil]
        simpa only [String.append_empty] using hnext
      · -- Not even the end of the line fits behind a line without its own.
        have hend : (line ++ "\n").utf8ByteSize = line.utf8ByteSize + 1 := String.utf8ByteSize_append
        have hsum : (terminated (Call.acceptedLines calls) ++ tail ++ (line ++ "\n")).utf8ByteSize =
            (terminated (Call.acceptedLines calls) ++ tail).utf8ByteSize + (line ++ "\n").utf8ByteSize :=
          String.utf8ByteSize_append
        have hle := hwithin _ hfull
        omega
    · refine ⟨_, next, tail ++ more, hoffer, ?_, hremains.append_refused hmore⟩
      rwa [Call.acceptedLines_append_refused, ← String.append_assoc]

end TextSink

end TreeDump
