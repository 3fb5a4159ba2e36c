import TreeDump.Command.Dump
import TreeDump.Log.Filter

namespace TreeDump.Command

/-- A run with filters that are lists of directives. -/
def run (arguments : List String) (outsideFilter : Option String) (device : BoundedBytes) : Outcome :=
  runWith Filter.reader arguments outsideFilter device

end TreeDump.Command
