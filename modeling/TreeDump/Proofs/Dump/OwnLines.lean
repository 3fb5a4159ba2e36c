import Mathlib.Algebra.GroupWithZero.Nat
import Mathlib.Data.List.Perm.Basic
import TreeDump.Dump.Layout
import TreeDump.Proofs.Tree.Place

namespace TreeDump

namespace LayoutLine

theorem map_below_zero (layout : List LayoutLine) : layout.map (below 0) = layout := by
  have hzero : below 0 = id := by
    funext line
    simp [below]
  rw [hzero, List.map_id]

theorem map_below_below (outer inner : Nat) (layout : List LayoutLine) :
    (layout.map (below inner)).map (below outer) = layout.map (below (inner + outer)) := by
  rw [List.map_map]
  refine List.map_congr_left fun line _ => ?_
  simp [below, Nat.add_comm inner outer, Nat.add_assoc]

end LayoutLine

/-- The lines whose texts pass a test. -/
def picked (test : String → Bool) (layout : List LayoutLine) : List LayoutLine :=
  layout.filter fun line => test line.text

section Picked

variable (test : String → Bool)

theorem picked_append (first second : List LayoutLine) :
    picked test (first ++ second) = picked test first ++ picked test second :=
  List.filter_append ..

theorem picked_flatMap {β : Type} (layout : β → List LayoutLine) (blocks : List β) :
    picked test (blocks.flatMap layout) = blocks.flatMap fun block => picked test (layout block) :=
  List.filter_flatMap

theorem picked_below (levels : Nat) (layout : List LayoutLine) :
    picked test (layout.map (.below levels)) = (picked test layout).map (.below levels) :=
  List.filter_map

end Picked

namespace Node

/-- The lines that a node has apart from those of the nodes in it. -/
def ownLines : Node → List LayoutLine
  | .program info body => Program.headLayout ⟨info, body⟩
  | .declaration d =>
    [⟨0, headerText d⟩, ⟨0, "type: " ++ d.info.kind.name⟩, ⟨0, "kind: " ++ d.keyword.text⟩,
      ⟨0, "declarations:"⟩]
  | .declarator d =>
    [⟨0, headerText d⟩, ⟨1, "type: " ++ d.info.kind.name⟩, ⟨1, "id:"⟩, ⟨1, "init:"⟩]
  | .identifier i => i.layout
  | .expression e => e.layout
  | .literal l => l.layout

/-- How much further in the children of a node stand than the node. -/
def inset : Node → Nat
  | .program _ _ => 2
  | .declaration _ => 1
  | .declarator _ => 2
  | .identifier _ => 0
  | .expression _ => 0
  | .literal _ => 0

/-- The lines of a node above all of its children. -/
def head : Node → List LayoutLine
  | .declarator d => [⟨0, headerText d⟩, ⟨1, "type: " ++ d.info.kind.name⟩]
  | node => node.ownLines

/-- The line of a node above one of its children. Only declarators have such lines. -/
def lead : Node → Node → List LayoutLine
  | .declarator _, .identifier _ => [⟨1, "id:"⟩]
  | .declarator _, .literal _ => [⟨1, "init:"⟩]
  | _, _ => []

/-- Layouts are put together in the same way for all nodes. -/
theorem layout_eq (node : Node) :
    node.layout = node.head ++ node.children.flatMap fun child =>
      node.lead child ++ child.layout.map (LayoutLine.below node.inset) := by
  cases node with
  | program info body =>
    rw [layout, bodyLayout_eq_flatMap]
    rfl
  | declaration d =>
    rw [layout, Declaration.layout, children, List.flatMap_map]
    rfl
  | declarator d =>
    rw [layout, Declarator.layout, List.append_assoc, children, List.flatMap_cons,
      List.flatMap_singleton]
    rfl
  | identifier i => rw [children, List.flatMap_nil, List.append_nil]; rfl
  | expression e => rw [children, List.flatMap_nil, List.append_nil]; rfl
  | literal l => rw [children, List.flatMap_nil, List.append_nil]; rfl

theorem ownLines_eq (node : Node) : node.ownLines = node.head ++ node.children.flatMap node.lead := by
  cases node with
  | program info body =>
    have hnone : body.flatMap (lead (.program info body)) = [] := List.flatMap_eq_nil_iff.mpr fun _ _ => rfl
    rw [children, hnone, List.append_nil]
    rfl
  | declaration d =>
    have hnone : (d.declarators.map declarator).flatMap (lead (.declaration d)) = [] :=
      List.flatMap_eq_nil_iff.mpr fun _ _ => rfl
    rw [children, hnone, List.append_nil]
    rfl
  | declarator d => rfl
  | identifier i => rfl
  | expression e => rfl
  | literal l => rfl

/-- Apart from their order, the lines of a layout are those of the node and those of its children,
    further in. -/
theorem layout_perm (node : Node) :
    node.layout.Perm
      (node.ownLines ++ node.children.flatMap fun child => child.layout.map (LayoutLine.below node.inset)) := by
  rw [layout_eq, ownLines_eq, List.append_assoc]
  exact (List.flatMap_append_perm _ _ _).symm.append_left node.head

/-- A test that the last line of declarators fails picks lines in the order of the nodes. -/
theorem picked_layout {test : String → Bool} (hinit : test "init:" = false) (node : Node) :
    picked test node.layout =
      picked test node.ownLines ++
        node.children.flatMap fun child => (picked test child.layout).map (LayoutLine.below node.inset) := by
  cases node with
  | program info body =>
    simp only [layout, bodyLayout_eq_flatMap, ownLines, children, inset, picked_append,
      picked_flatMap, picked_below]
  | declaration d =>
    simp only [layout, Declaration.layout, ownLines, children, inset, picked_append,
      picked_flatMap, picked_below, List.flatMap_map]
  | declarator d =>
    have hlast (lines : List LayoutLine) : picked test (⟨1, "init:"⟩ :: lines) = picked test lines :=
      List.filter_cons_of_neg (by simp [hinit])
    have hown : ownLines (.declarator d) =
        [⟨0, headerText d⟩, ⟨1, "type: " ++ d.info.kind.name⟩, ⟨1, "id:"⟩] ++ [⟨1, "init:"⟩] := rfl
    have hnone : picked test [] = [] := rfl
    simp only [layout, Declarator.layout, hown, children, inset, picked_append, hlast, hnone,
      picked_below, List.flatMap_cons, List.flatMap_nil, List.append_nil, List.append_assoc]
  | identifier i => simp [layout, ownLines, children]
  | expression e => simp [layout, ownLines, children]
  | literal l => simp [layout, ownLines, children]

end Node

namespace Place

/-- How much further in a place stands than the root. -/
def offset (place : Place) : Nat :=
  (place.above.map Node.inset).sum

/-- The lines of the node at a place, as far in as the place is. -/
def lines (place : Place) : List LayoutLine :=
  place.node.ownLines.map (.below place.offset)

theorem flatMap_lines_cons (above : List Node) (node : Node) {β : Type}
    (take : List LayoutLine → List β) :
    (node.placesFrom above).flatMap (fun place => take place.lines) =
      take (node.ownLines.map (LayoutLine.below (above.map Node.inset).sum)) ++
        node.children.flatMap fun child =>
          (child.placesFrom (node :: above)).flatMap fun place => take place.lines := by
  rw [Node.placesFrom_eq, List.flatMap_cons, List.flatMap_assoc]
  rfl

end Place

namespace Node

theorem below_sum_inset (above : List Node) (node : Node) (layout : List LayoutLine) :
    (layout.map (LayoutLine.below node.inset)).map (LayoutLine.below (above.map inset).sum) =
      layout.map (LayoutLine.below ((node :: above).map inset).sum) := by
  rw [LayoutLine.map_below_below, List.map_cons, List.sum_cons]

/-- The layout of a node that stands in others has the lines of all places below, in another order. -/
theorem layout_perm_placesFrom (above : List Node) (node : Node) :
    (node.layout.map (LayoutLine.below (above.map inset).sum)).Perm
      ((node.placesFrom above).flatMap Place.lines) := by
  induction node using children_induction generalizing above with
  | hstep node ih =>
    have hlayout := node.layout_perm.map (LayoutLine.below (above.map inset).sum)
    rw [List.map_append, List.map_flatMap] at hlayout
    rw [Place.flatMap_lines_cons above node fun lines => lines]
    refine hlayout.trans (.append_left _ (.flatMap_left _ fun child hchild => ?_))
    rw [below_sum_inset]
    exact ih child hchild (node :: above)

theorem picked_layout_placesFrom {test : String → Bool} (hinit : test "init:" = false)
    (above : List Node) (node : Node) :
    (picked test node.layout).map (LayoutLine.below (above.map inset).sum) =
      (node.placesFrom above).flatMap fun place => picked test place.lines := by
  induction node using children_induction generalizing above with
  | hstep node ih =>
    rw [picked_layout hinit, List.map_append, List.map_flatMap, ← picked_below,
      Place.flatMap_lines_cons]
    congr 1
    refine List.flatMap_congr fun child hchild => ?_
    rw [below_sum_inset]
    exact ih child hchild (node :: above)

/-- The lines of a layout are those of all places, in another order. -/
theorem layout_perm_places (node : Node) :
    node.layout.Perm (node.places.flatMap Place.lines) := by
  have hperm := layout_perm_placesFrom [] node
  rwa [List.map_nil, List.sum_nil, LayoutLine.map_below_zero] at hperm

/-- What is measured of the texts of a layout adds up over the nodes, whatever their order. -/
theorem sum_map_layout (measure : String → Nat) (node : Node) :
    (node.layout.map fun line => measure line.text).sum =
      (node.preorder.map fun visited =>
        (visited.2.ownLines.map fun line => measure line.text).sum).sum := by
  have hplace (place : Place) : (place.lines.map fun line => measure line.text) =
      place.node.ownLines.map fun line => measure line.text := by
    rw [Place.lines, List.map_map]
    rfl
  calc (node.layout.map fun line => measure line.text).sum
      = ((node.places.flatMap Place.lines).map fun line => measure line.text).sum :=
        (node.layout_perm_places.map _).sum_nat
    _ = (node.places.map fun place =>
          (place.node.ownLines.map fun line => measure line.text).sum).sum := by
        rw [List.map_flatMap, List.flatMap_def, List.sum_flatten, List.map_map]
        simp only [hplace, Function.comp_def]
    _ = _ := by
        rw [← map_places, List.map_map]
        rfl

/-- The lines that pass a test come place by place, in pre-order, if the test leaves out the last line
    of declarators. -/
theorem picked_layout_places {test : String → Bool} (hinit : test "init:" = false) (node : Node) :
    picked test node.layout = node.places.flatMap fun place => picked test place.lines := by
  have hpicked := picked_layout_placesFrom hinit [] node
  rwa [List.map_nil, List.sum_nil, LayoutLine.map_below_zero] at hpicked

/-- The texts that such a test picks are those of the nodes of the walk, one node after the other. -/
theorem texts_picked_layout {test : String → Bool} (hinit : test "init:" = false) (node : Node) :
    (picked test node.layout).map (·.text) =
      (node.preorder.map (·.2)).flatMap fun visited =>
        (picked test visited.ownLines).map (·.text) := by
  have hplace (place : Place) : (picked test place.lines).map (·.text) =
      (picked test place.node.ownLines).map (·.text) := by
    rw [Place.lines, picked_below, List.map_map]
    rfl
  rw [picked_layout_places hinit, List.map_flatMap, ← map_node_places, List.flatMap_map]
  exact List.flatMap_congr fun place _ => hplace place

end Node

end TreeDump
