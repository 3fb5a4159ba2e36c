import TreeDump.Dump.Layout
import TreeDump.Main
import TreeDump.Number.Reading
import TreeDump.Session
import TreeDump.Sink.Limited
import TreeDump.Tree.Equality
import TreeDump.Tree.Inspect
import TreeDump.Tree.Summary
import TreeDump.Proofs.Sink.Offering
import TreeDump.Proofs.Dump.Lines
import TreeDump.Proofs.Dump.Step
import TreeDump.Proofs.Dump.Account
import TreeDump.Proofs.Dump.Indentation
import TreeDump.Proofs.Tree.Everywhere
import TreeDump.Proofs.Tree.Tagged
import TreeDump.Proofs.Tree.Sound
import TreeDump.Proofs.Tree.Recipe
import TreeDump.Proofs.Tree.Alike
import TreeDump.Proofs.Dump.Block
import TreeDump.Proofs.Dump.Unambiguous
import TreeDump.Proofs.Tree.Place
import TreeDump.Proofs.Tree.Visit
import TreeDump.Proofs.Tree.Record
import TreeDump.Proofs.Tree.Context
import TreeDump.Proofs.Number.Equality
import TreeDump.Proofs.Tree.Equality
import TreeDump.Proofs.Tree.Preorder
import TreeDump.Proofs.Tree.Edit
import TreeDump.Proofs.Dump.OwnLines
import TreeDump.Proofs.Dump.Composition
import TreeDump.Proofs.Dump.Equality
import TreeDump.Proofs.Dump.Walk
import TreeDump.Proofs.Dump.Payload
import TreeDump.Proofs.Dump.Labels
import TreeDump.Proofs.Sink.Capacity
import TreeDump.Proofs.Sink.Writers
import TreeDump.Proofs.Sink.Continuing
import TreeDump.Proofs.Sink.Bounded
import TreeDump.Proofs.Dump.Capacity
import TreeDump.Proofs.Dump.Continuing
import TreeDump.Proofs.Number.Plain
import TreeDump.Proofs.Number.Numeral
import TreeDump.Proofs.Sink.Extremes
import TreeDump.Proofs.Sink.LineEnds
import TreeDump.Proofs.Dump.LineEnds
import TreeDump.Proofs.Command.Arguments
import TreeDump.Proofs.Command.Conduct
import TreeDump.Proofs.Command.Sample
import TreeDump.Proofs.Command.Noninterference
import TreeDump.Proofs.Text.Quoted
import TreeDump.Proofs.Tree.Inspect
import TreeDump.Proofs.Number.Nearest
import TreeDump.Proofs.Number.Shortest
import TreeDump.Proofs.Number.Positional
import TreeDump.Proofs.Number.RoundTrip
import TreeDump.Proofs.Number.Integer
