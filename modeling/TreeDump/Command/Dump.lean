import TreeDump.Command.Options
import TreeDump.Command.Sample
import TreeDump.Dump.Checked
import TreeDump.Log.Reader
import TreeDump.Sink.Bounded
import TreeDump.Tree.Visitor

namespace TreeDump.Command

structure Outcome where
  exitCode : Nat
  output : ByteArray
  /-- What is said about a filter that could only be read in part. -/
  notes : List String
  /-- The lines of the log, as far as the filter shows them. -/
  log : List String
  /-- What is said about a run that failed. -/
  report : List String

/-- All diagnostics, in order. -/
def Outcome.diagnostics (outcome : Outcome) : List String :=
  outcome.notes ++ outcome.log ++ outcome.report

def helpText : String :=
  String.join <| List.map (· ++ "\n")
    [ "Dump a sample falsy syntax tree",
      "",
      "Usage: falsy [OPTIONS]",
      "",
      "Options:",
      "      --depth <DEPTH>          Depth the root node is dumped at [default: 1]",
      "      --root <ROOT>            Which node of the sample tree to dump " ++
        "[default: program] [possible values: program, declaration]",
      "      --indent <INDENT>        Spaces per indentation level [default: 2]",
      "      --log-level <LOG_LEVEL>  Log filter used when RUST_LOG is not set [default: warn]",
      "  -h, --help                   Print help" ]

/-- Why a run that was asked to dump did not do so to the end. -/
inductive Failure where
  | noDeclaration
  | dump (error : DumpError)
  | fault (fault : Fault)

/-- The report of a failure, the outermost cause first. -/
def Failure.report : Failure → List String
  | .noDeclaration => ["Error:   × sample program has no variable declaration"]
  | .dump (.write line source) =>
    ["Error:   × failed to dump syntax tree",
      "  ├─▶ " ++ (DumpError.write line source).message,
      "  ╰─▶ " ++ source.message]
  | .dump (.flush source) => ["Error:   × " ++ source.message]
  | .fault cause => [cause.message]

/-- A fault has an exit code of its own. -/
def Failure.exitCode : Failure → Nat
  | .noDeclaration => 1
  | .dump _ => 1
  | .fault _ => 101

/-- What a dump of the sample tree leaves behind. -/
structure Trace where
  device : BoundedBytes
  events : List Event
  failure : Option Failure

def Trace.ofResult : CheckedResult (ByteSink BoundedBytes) → Trace
  | .ok (.ok ()) state => ⟨state.sink.writer, state.log.toList, none⟩
  | .ok (.error fault) state => ⟨state.sink.writer, state.log.toList, some (.fault fault)⟩
  | .error error state => ⟨state.sink.writer, state.log.toList, some (.dump error)⟩

def dumpSample (device : BoundedBytes) (indent : Indent) (depth : Depth) : Root → Trace
  | .program => .ofResult ((CheckedM.dumpAndFlush depth sampleProgram).run (.start ⟨device⟩ indent))
  | .declaration =>
    match sampleProgram.firstDeclaration? with
    | none => ⟨device, [], some .noDeclaration⟩
    | some declaration =>
      .ofResult ((CheckedM.dumpAndFlush depth declaration).run (.start ⟨device⟩ indent))

/-- The event before any dump. -/
def builtSample : Event :=
  .built (toNode sampleProgram).count

def runOptions (filter : EventFilter) (device : BoundedBytes) (options : Options) : Outcome :=
  match Indent.ofWidth options.indent with
  | .error fault =>
    ⟨101, device.kept, filter.notes, filter.lines [builtSample], [fault.message]⟩
  | .ok indent =>
    let trace := dumpSample device indent options.depth options.root
    let log := filter.lines (builtSample :: trace.events)
    match trace.failure with
    | none => ⟨0, trace.device.kept, filter.notes, log, []⟩
    | some failure => ⟨failure.exitCode, trace.device.kept, filter.notes, log, failure.report⟩

/-- Help goes to the device too, but a device that cannot take it does not make the run fail. -/
def runHelp (device : BoundedBytes) : Outcome :=
  match ByteWriter.writeAll (utf8 helpText) device with
  | .ok _ device => ⟨0, device.kept, [], [], []⟩
  | .error _ device => ⟨0, device.kept, [], [], []⟩

/-- A run of the command, from its arguments, a filter from outside and an output device. -/
def runWith {ε : Type} (reader : FilterReader ε) (arguments : List String) (outside : Option ε)
    (device : BoundedBytes) : Outcome :=
  match Request.ofArguments arguments with
  | .error error => ⟨2, device.kept, [], [], ["error: " ++ error.message]⟩
  | .ok .help => runHelp device
  | .ok (.dump options) =>
    match reader.choose outside options.logLevel with
    | .error fault => ⟨101, device.kept, [], [], [fault.message]⟩
    | .ok filter => runOptions filter device options

end TreeDump.Command
