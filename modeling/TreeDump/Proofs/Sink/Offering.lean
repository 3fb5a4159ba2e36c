import TreeDump.Sink.Basic

namespace TreeDump

namespace Sink

variable {σ : Type} [Sink σ]

/-- The sink takes the lines one after the other, which brings it from the first state to the
    last. -/
inductive Takes : List String → σ → σ → Prop where
  | nil (sink : σ) : Takes [] sink sink
  | cons {line : String} {lines : List String} {sink next last : σ}
      (haccept : Sink.accept line sink = .ok () next) (htail : Takes lines next last) :
      Takes (line :: lines) sink last

/-- The sink takes the lines before the one at `index` and refuses that one, with the error
    `source`. The last state is the one that the refusal leaves. -/
def Refuses (lines : List String) (sink : σ) (index : Nat) (source : SinkError) (last : σ) : Prop :=
  ∃ line before, lines[index]? = some line ∧ Takes (lines.take index) sink before ∧
    Sink.accept line before = .error source last

theorem Refuses.index_lt {lines : List String} {sink last : σ} {index : Nat} {source : SinkError}
    (hrefuses : Refuses lines sink index source last) : index < lines.length := by
  obtain ⟨line, before, hline, _, _⟩ := hrefuses
  exact (List.getElem?_eq_some_iff.mp hline).1

/-- However a sink answers, it takes all lines or there is a first one that it refuses. -/
theorem takes_or_refuses (lines : List String) (sink : σ) :
    (∃ last, Takes lines sink last) ∨
      ∃ index source last, Refuses lines sink index source last := by
  induction lines generalizing sink with
  | nil => exact .inl ⟨sink, .nil sink⟩
  | cons line lines ih =>
    cases haccept : Sink.accept line sink with
    | error source last => exact .inr ⟨0, source, last, line, sink, rfl, .nil sink, haccept⟩
    | ok _ next =>
      obtain ⟨last, htail⟩ | ⟨index, source, last, refused, before, hline, htail, hrefusal⟩ :=
        ih next
      · exact .inl ⟨last, .cons haccept htail⟩
      · refine .inr ⟨index + 1, source, last, refused, before, ?_, .cons haccept htail, hrefusal⟩
        simpa using hline

/-- A list of lines keeps all of them, in order. -/
theorem takes_array (lines : List String) (kept : Array String) :
    Takes lines kept (kept ++ lines.toArray) := by
  induction lines generalizing kept with
  | nil => simpa using Takes.nil kept
  | cons line lines ih =>
    have hpush : kept ++ (line :: lines).toArray = kept.push line ++ lines.toArray := by
      simp
    rw [hpush]
    exact .cons rfl (ih (kept.push line))

end Sink

/-- A call made to a sink: the line it was offered and, if it refused that line, its error. -/
structure Call where
  line : String
  refusal? : Option SinkError
deriving DecidableEq

namespace Call

def accepted (line : String) : Call :=
  ⟨line, none⟩

def refused (line : String) (source : SinkError) : Call :=
  ⟨line, some source⟩

/-- The number of calls that were accepted. -/
def countAccepted (calls : List Call) : Nat :=
  calls.countP (·.refusal?.isNone)

@[simp] theorem countAccepted_append (first second : List Call) :
    countAccepted (first ++ second) = countAccepted first + countAccepted second :=
  List.countP_append

@[simp] theorem countAccepted_map_accepted (lines : List String) :
    countAccepted (lines.map accepted) = lines.length := by
  simp [countAccepted, accepted, List.countP_map, Function.comp_def]

/-- The error of the first call that was refused, if one was. -/
def firstRefusal? (calls : List Call) : Option SinkError :=
  calls.findSome? (·.refusal?)

@[simp] theorem firstRefusal?_map_accepted (lines : List String) :
    firstRefusal? (lines.map accepted) = none := by
  simp [firstRefusal?, accepted, List.findSome?_map, Function.comp_def]

@[simp] theorem lines_map_accepted (lines : List String) :
    (lines.map accepted).map (·.line) = lines := by
  simp [accepted, Function.comp_def]

/-- The calls that offer lines up to the one at `index`, which is refused. -/
def refusedAt (lines : List String) (index : Nat) (source : SinkError) : List Call :=
  (lines.take index).map accepted ++ lines[index]?.toList.map fun line => refused line source

theorem lines_refusedAt (lines : List String) (index : Nat) (source : SinkError) :
    (refusedAt lines index source).map (·.line) = lines.take (index + 1) := by
  rw [refusedAt, List.map_append, lines_map_accepted, List.take_add_one]
  simp [refused, Function.comp_def]

section

variable {lines : List String} {index : Nat}

theorem refusedAt_eq (hindex : index < lines.length) (source : SinkError) :
    refusedAt lines index source =
      (lines.take index).map accepted ++ [refused lines[index] source] := by
  rw [refusedAt, List.getElem?_eq_getElem hindex]
  rfl

theorem countAccepted_refusedAt (hindex : index < lines.length) (source : SinkError) :
    countAccepted (refusedAt lines index source) = index := by
  have hrefused : countAccepted [refused lines[index] source] = 0 := rfl
  rw [refusedAt_eq hindex, countAccepted_append, countAccepted_map_accepted, hrefused, Nat.add_zero,
    List.length_take_of_le (Nat.le_of_lt hindex)]

theorem firstRefusal?_refusedAt (hindex : index < lines.length) (source : SinkError) :
    firstRefusal? (refusedAt lines index source) = some source := by
  have hnone := firstRefusal?_map_accepted (lines.take index)
  rw [refusedAt_eq hindex, firstRefusal?, List.findSome?_append, ← firstRefusal?, hnone]
  rfl

end

end Call

/-- A sink together with the calls made to it, first to last. -/
structure Recorded (σ : Type) where
  sink : σ
  calls : List Call

namespace Recorded

variable {σ : Type} [Sink σ]

/-- The answers are those of the sink inside. -/
instance : Sink (Recorded σ) where
  accept line := fun ⟨sink, calls⟩ =>
    match Sink.accept line sink with
    | .ok () next => .ok () ⟨next, calls ++ [.accepted line]⟩
    | .error source next => .error source ⟨next, calls ++ [.refused line source]⟩
  flush := fun ⟨sink, calls⟩ =>
    match Sink.flush sink with
    | .ok () next => .ok () ⟨next, calls⟩
    | .error source next => .error source ⟨next, calls⟩

theorem accept_of_ok {line : String} {sink next : σ} (haccept : Sink.accept line sink = .ok () next)
    (calls : List Call) :
    Sink.accept line (⟨sink, calls⟩ : Recorded σ) = .ok () ⟨next, calls ++ [.accepted line]⟩ := by
  change (match Sink.accept line sink with | .ok () _ => _ | .error _ _ => _) = _
  rw [haccept]

theorem accept_of_error {line : String} {sink next : σ} {source : SinkError}
    (hrefusal : Sink.accept line sink = .error source next) (calls : List Call) :
    Sink.accept line (⟨sink, calls⟩ : Recorded σ) =
      .error source ⟨next, calls ++ [.refused line source]⟩ := by
  change (match Sink.accept line sink with | .ok () _ => _ | .error _ _ => _) = _
  rw [hrefusal]

end Recorded

namespace Sink

variable {σ : Type} [Sink σ]

/-- Lines that a sink takes are recorded as accepted, and the record changes nothing else. -/
theorem Takes.recorded {lines : List String} {sink last : σ} (htakes : Takes lines sink last)
    (calls : List Call) :
    Takes lines (⟨sink, calls⟩ : Recorded σ) ⟨last, calls ++ lines.map .accepted⟩ := by
  induction htakes generalizing calls with
  | nil sink => simpa using Takes.nil (⟨sink, calls⟩ : Recorded σ)
  | @cons line lines sink next last haccept _ ih =>
    refine .cons (Recorded.accept_of_ok haccept calls) ?_
    have htail := ih (calls ++ [.accepted line])
    rwa [List.append_assoc, List.singleton_append, ← List.map_cons] at htail

/-- A refusal is recorded behind the lines accepted before it, with the line and the error. -/
theorem Refuses.recorded {lines : List String} {sink last : σ} {index : Nat} {source : SinkError}
    (hrefuses : Refuses lines sink index source last) (calls : List Call) :
    Refuses lines (⟨sink, calls⟩ : Recorded σ) index source
      ⟨last, calls ++ Call.refusedAt lines index source⟩ := by
  obtain ⟨line, before, hline, htakes, hrefusal⟩ := hrefuses
  refine ⟨line, _, hline, htakes.recorded calls, ?_⟩
  rw [Recorded.accept_of_error hrefusal, List.append_assoc, Call.refusedAt, hline]
  rfl

end Sink

end TreeDump
