import TreeDump.Tree.Node

namespace TreeDump.Command

def sampleDeclaration : Declaration :=
  (Declaration.empty .letWord)
    |>.append (.binding (.named "users") (.holding (.ofInt32 12)))
    |>.append (.binding (.named "age") (.holding (.ofInt32 18)))

def sampleProgram : Program :=
  Program.empty
    |>.append (.declaration sampleDeclaration)
    |>.append (.declaration sampleDeclaration)

end TreeDump.Command
