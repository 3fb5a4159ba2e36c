import Std.Data.TreeMap
import TreeDump.Dump.Output
import TreeDump.Tree.Equality
import TreeDump.Tree.Summary

namespace TreeDump

/-- The child at the end of the parent, if the parent can hold it: a program holds any node, a
    declaration only declarators. -/
def Node.append? : Node → Node → Option Node
  | .program info body, child => some (toNode (Program.append ⟨info, body⟩ child))
  | .declaration d, .declarator child => some (.declaration (d.append child))
  | _, _ => none

/-- A program that holds this node alone, in a program that holds it alone, and so on. -/
def Node.wrapped : Nat → Node → Node
  | 0, node => node
  | times + 1, node => Node.wrapped times (toNode (Program.empty.append node))

inductive SessionError where
  /-- A name stands for no node, or for the very node it was to be joined with. -/
  | noSlot
  | typeMismatch
  | fault (fault : Fault)

structure Session where
  slots : Std.TreeMap String Node

namespace Session

def empty : Session :=
  ⟨∅⟩

/-- The names in use, in order. -/
def names (session : Session) : List String :=
  session.slots.keys

def find (session : Session) (name : String) : Except SessionError Node :=
  match session.slots[name]? with
  | some node => .ok node
  | none => .error .noSlot

def put (session : Session) (name : String) (node : Node) : Session :=
  ⟨session.slots.insert name node⟩

/-- Moves a node to the end of another, which is returned too. Its own name is free afterwards. -/
def move (session : Session) (child parent : String) : Except SessionError (Node × Session) := do
  let into ← session.find parent
  if child = parent then
    throw .noSlot
  let node ← session.find child
  match into.append? node with
  | none => throw .typeMismatch
  | some grown => return (grown, ⟨(session.slots.erase child).insert parent grown⟩)

/-- Copies a node to another name, and tells whether the copy equals the node. -/
def copy (session : Session) (source target : String) : Except SessionError (Bool × Session) := do
  let node ← session.find source
  return (node == node, session.put target node)

def withSpan (session : Session) (name : String) (start stop : UInt32) :
    Except SessionError (Node × Session) := do
  let node ← session.find name
  match node.withSpan start stop with
  | .error fault => throw (.fault fault)
  | .ok spanned => return (spanned, session.put name spanned)

def wrap (session : Session) (name : String) (times : Nat) : Except SessionError (Node × Session) := do
  let node ← session.find name
  let wrapped := Node.wrapped times node
  return (wrapped, session.put name wrapped)

end Session

end TreeDump
