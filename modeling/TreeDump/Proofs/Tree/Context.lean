import TreeDump.Tree.Children

namespace TreeDump

/-- A node with a hole in the place of one of its children. -/
inductive Frame where
  | body (info : NodeInfo) (before after : List Node)
  | declarators (info : NodeInfo) (keyword : Keyword) (before after : List Declarator)
  | name (info : NodeInfo) (init : Literal)
  | value (info : NodeInfo) (id : Identifier)

/-- The node with the child in its hole, if the child fits there. Only the body of a program has room
    for a node of any kind. -/
def Frame.fill? : Frame → Node → Option Node
  | .body info before after, child => some (.program info (before ++ child :: after))
  | .declarators info keyword before after, .declarator child =>
    some (.declaration ⟨info, keyword, before ++ child :: after⟩)
  | .name info init, .identifier child => some (.declarator ⟨info, child, init⟩)
  | .value info id, .literal child => some (.declarator ⟨info, id, child⟩)
  | _, _ => none

/-- What stands around a hole, the nearest first. Without frames the hole is the whole tree. -/
abbrev Context := List Frame

namespace Context

/-- The tree with the part in its hole, if every node fits into the next. -/
def fill? : Context → Node → Option Node
  | [], part => some part
  | frame :: context, part => (frame.fill? part).bind (fill? context)

theorem fill?_append (inner outer : Context) (part : Node) :
    fill? (inner ++ outer) part = (fill? inner part).bind (fill? outer) := by
  induction inner generalizing part with
  | nil => rfl
  | cons frame inner ih =>
    cases hfilled : frame.fill? part with
    | none => simp only [List.cons_append, fill?, hfilled, Option.bind_none]
    | some parent => simp only [List.cons_append, fill?, hfilled, Option.bind_some, ih]

end Context

/-- Any child of a node leaves a hole into which it fits. -/
theorem Node.exists_frame_of_mem_children {child parent : Node} (hchild : child ∈ parent.children) :
    ∃ frame : Frame, frame.fill? child = some parent := by
  cases parent with
  | program info body =>
    obtain ⟨before, after, hbody⟩ := List.append_of_mem hchild
    change body = _ at hbody
    exact ⟨.body info before after, by rw [hbody]; rfl⟩
  | declaration d =>
    obtain ⟨declarator, hdeclarator, rfl⟩ := List.mem_map.mp hchild
    obtain ⟨before, after, hdeclarators⟩ := List.append_of_mem hdeclarator
    exact ⟨.declarators d.info d.keyword before after, by rw [Frame.fill?, ← hdeclarators]⟩
  | declarator d =>
    simp only [children, List.mem_cons, List.not_mem_nil, or_false] at hchild
    obtain rfl | rfl := hchild
    · exact ⟨.name d.info d.init, rfl⟩
    · exact ⟨.value d.info d.id, rfl⟩
  | identifier i => cases hchild
  | expression e => cases hchild
  | literal l => cases hchild

end TreeDump
