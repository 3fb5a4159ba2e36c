import TreeDump.Proofs.Dump.Indentation
import TreeDump.Proofs.Dump.Lines
import TreeDump.Proofs.Dump.OwnLines
import TreeDump.Proofs.Tree.Preorder
import TreeDump.Proofs.Tree.Visit

namespace TreeDump

namespace Node

/-- The layout of a node, each line with the node that it belongs to. -/
def ownedLayout (node : Node) : List (Node × LayoutLine) :=
  node.head.map (node, ·) ++ node.children.attach.flatMap fun child =>
    (node.lead child.val).map (node, ·) ++ (ownedLayout child.val).map (.map id (.below node.inset))
termination_by sizeOf node
decreasing_by exact sizeOf_lt_of_mem_children child.property

theorem ownedLayout_eq (node : Node) :
    node.ownedLayout = node.head.map (node, ·) ++ node.children.flatMap fun child =>
      (node.lead child).map (node, ·) ++ child.ownedLayout.map (.map id (.below node.inset)) := by
  rw [ownedLayout]
  simp

theorem map_snd_ownedLayout (node : Node) : node.ownedLayout.map (·.2) = node.layout := by
  induction node using children_induction with
  | hstep node ih =>
    have hown (lines : List LayoutLine) : (lines.map (node, ·)).map (·.2) = lines := by
      rw [List.map_map]
      exact List.map_id lines
    rw [ownedLayout_eq, layout_eq, List.map_append, hown, List.map_flatMap]
    congr 1
    refine List.flatMap_congr fun child hchild => ?_
    rw [List.map_append, hown, ← ih child hchild, List.map_map, List.map_map]
    rfl

/-- The lines of a dump, each with the node that it belongs to. -/
def ownedLines (indent : Indent) (depth : Depth) (node : Node) : List (Node × String) :=
  node.ownedLayout.map (.map id (·.render indent depth))

theorem map_snd_ownedLines (indent : Indent) (depth : Depth) (node : Node) :
    (node.ownedLines indent depth).map (·.2) = dumpedLines indent depth node := by
  rw [dumpedLines_eq_map_render]
  change _ = node.layout.map _
  rw [← map_snd_ownedLayout, ownedLines, List.map_map, List.map_map]
  rfl

end Node

/-- Two nodes stand at the same position of two trees. -/
inductive Counterparts (a b : Node) : Node → Node → Prop where
  | root : Counterparts a b a b
  | child {c d c' d' : Node} (habove : Counterparts a b c d) (hpair : (c', d') ∈ c.children.zip d.children) :
    Counterparts a b c' d'

/-- The literals hold zeros of different signs. -/
def ZerosApart (x y : Literal) : Prop :=
  ∃ negative, x.value = .number (.signedZero negative) ∧ y.value = .number (.signedZero !negative)

/-- Two lines belong to the same position of two trees, and they are the same or the values of zeros
    of different signs. -/
def Accord (a b : Node) (first second : Node × LayoutLine) : Prop :=
  Counterparts a b first.1 second.1 ∧
    (first.2 = second.2 ∨ ∃ x y offset, ZerosApart x y ∧
      first = (.literal x, ⟨offset, "value: " ++ x.value.text⟩) ∧
      second = (.literal y, ⟨offset, "value: " ++ y.value.text⟩))

theorem Accord.below {a b : Node} {first second : Node × LayoutLine} (haccord : Accord a b first second)
    (levels : Nat) :
    Accord a b (first.map id (.below levels)) (second.map id (.below levels)) := by
  obtain ⟨hpair, heq | ⟨x, y, offset, hzeros, rfl, rfl⟩⟩ := haccord
  · exact ⟨hpair, .inl (congrArg (LayoutLine.below levels) heq)⟩
  · exact ⟨hpair, .inr ⟨x, y, levels + offset, hzeros, rfl, rfl⟩⟩

/-- Values that are equal are the same but for the sign of a zero. -/
theorem eq_or_zerosApart {x y : Literal} (hvalue : (x.value == y.value) = true) :
    x.value = y.value ∨ ZerosApart x y := by
  obtain ⟨_, hsame | ⟨negative, negative', hx, hy⟩⟩ := Scalar.beq_iff.mp hvalue
  · exact .inl hsame
  · by_cases hsign : negative' = negative
    · rw [hsign] at hy
      exact .inl (hx.trans hy.symm)
    · rw [Bool.eq_not.mpr hsign] at hy
      exact .inr ⟨negative, hx, hy⟩

namespace Node

variable {root root' a b : Node}

theorem forall₂_accord_same (hpair : Counterparts root root' a b) (lines : List LayoutLine) :
    List.Forall₂ (Accord root root') (lines.map (a, ·)) (lines.map (b, ·)) := by
  rw [List.forall₂_map_left_iff, List.forall₂_map_right_iff, List.forall₂_same]
  exact fun line _ => ⟨hpair, .inl rfl⟩

/-- Of the lines above the children, only that with a value can differ. -/
theorem forall₂_accord_head (hpair : Counterparts root root' a b) (hfields : a.SameFields b) :
    List.Forall₂ (Accord root root') (a.head.map (a, ·)) (b.head.map (b, ·)) := by
  have hsame (hhead : a.head = b.head) :
      List.Forall₂ (Accord root root') (a.head.map (a, ·)) (b.head.map (b, ·)) := by
    rw [hhead]
    exact forall₂_accord_same hpair b.head
  have hinfo := hfields.info_eq
  cases sameVariant_of_variant_eq hfields.variant_eq with
  | program info info' body body' => exact hsame rfl
  | declaration a b =>
    change a.info = b.info at hinfo
    have hkeyword : a.keyword = b.keyword := Option.some.inj hfields.keyword_eq
    exact hsame (by simp [head, ownLines, headerText, NodeLike.label, hinfo, hkeyword])
  | declarator a b =>
    change a.info = b.info at hinfo
    exact hsame (by simp [head, headerText, NodeLike.label, hinfo])
  | identifier a b =>
    change a.info = b.info at hinfo
    have hname : a.name = b.name := Option.some.inj hfields.name_eq
    exact hsame (by simp [head, ownLines, Identifier.layout, headerText, NodeLike.label, hinfo, hname])
  | expression a b =>
    change a.info = b.info at hinfo
    exact hsame (by simp [head, ownLines, Expression.layout, headerText, NodeLike.label, hinfo])
  | literal a b =>
    change a.info = b.info at hinfo
    have htype : "type: " ++ a.info.kind.name = "type: " ++ b.info.kind.name := by rw [hinfo]
    obtain hvalue | hzeros := eq_or_zerosApart hfields.value_beq
    · exact hsame (by simp [head, ownLines, Literal.layout, headerText, NodeLike.label, hinfo, hvalue])
    · refine .cons ⟨hpair, .inl rfl⟩ (.cons ⟨hpair, .inl (congrArg (LayoutLine.mk 1) htype)⟩ ?_)
      exact .cons ⟨hpair, .inr ⟨a, b, 1, hzeros, rfl, rfl⟩⟩ .nil

theorem lead_congr {c d : Node} (hparents : a.variant = b.variant) (hchildren : c.variant = d.variant) :
    a.lead c = b.lead d := by
  cases sameVariant_of_variant_eq hparents <;> cases sameVariant_of_variant_eq hchildren <;> rfl

/-- The lines of equal nodes at the same position accord, whatever the trees around them are. -/
theorem forall₂_ownedLayout (hpair : Counterparts root root' a b) (hbeq : (a == b) = true) :
    List.Forall₂ (Accord root root') a.ownedLayout b.ownedLayout := by
  induction a using children_induction generalizing b with
  | hstep a ih =>
    obtain ⟨hfields, hchildren⟩ := beq_iff.mp hbeq
    obtain ⟨hlength, hzip⟩ := List.forall₂_iff_zip.mp hchildren
    rw [ownedLayout_eq, ownedLayout_eq, List.flatMap_def, List.flatMap_def]
    refine List.rel_append (forall₂_accord_head hpair hfields) (List.rel_flatten ?_)
    rw [List.forall₂_map_left_iff, List.forall₂_map_right_iff, List.forall₂_iff_zip]
    refine ⟨hlength, fun {c d} hmem => List.rel_append ?_ ?_⟩
    · rw [lead_congr hfields.variant_eq (variant_eq_of_beq (hzip hmem))]
      exact forall₂_accord_same hpair (b.lead d)
    · have hinset : a.inset = b.inset := by
        cases sameVariant_of_variant_eq hfields.variant_eq <;> rfl
      have hbelow := ih c (List.of_mem_zip hmem).1 (hpair.child hmem) (hzip hmem)
      rw [hinset, List.forall₂_map_left_iff, List.forall₂_map_right_iff]
      exact hbelow.imp fun _ _ haccord => haccord.below b.inset

end Node

/-- Equality of trees is symmetric and transitive, and a tree is equal to itself unless it holds a NaN.
    Trees are equal exactly if their walks go through the same depths, spans, kinds, keywords and names
    and through equal values. Their dumps are then the same line by line, and so are the nodes that
    the lines belong to in position, but the value of a zero can show another sign. -/
theorem Node.equality_overlooks_zero_signs :
    (∀ a b : Node, (a == b) = (b == a)) ∧
    (∀ a b c : Node, (a == b) = true → (b == c) = true → (a == c) = true) ∧
    (∀ a : Node, (a == a) = true ↔ a.FreeOfNaN) ∧
    (∀ a b : Node, (a == b) = true ↔ List.Forall₂ Agree a.preorder b.preorder) ∧
    (∀ (indent : Indent) (depth : Depth) (node : Node),
      (node.ownedLines indent depth).map (·.2) = dumpedLines indent depth node) ∧
    ∀ a b : Node, (a == b) = true →
      a.preorder.map (fun visited => (visited.1, visited.2.kind, visited.2.span)) =
        b.preorder.map (fun visited => (visited.1, visited.2.kind, visited.2.span)) ∧
      a.count = b.count ∧
      ∀ (indent : Indent) (depth : Depth),
        List.Forall₂ (fun first second => Counterparts a b first.1 second.1 ∧
            (first.2 = second.2 ∨ ∃ x y levels, ZerosApart x y ∧
              first = (.literal x, indent.times levels ++ ("value: " ++ x.value.text)) ∧
              second = (.literal y, indent.times levels ++ ("value: " ++ y.value.text))))
          (a.ownedLines indent depth) (b.ownedLines indent depth) := by
  refine ⟨fun a b => BEq.comm, fun a b c => BEq.trans, beq_self_iff,
    fun a b => beq_iff_forall₂_preorder, map_snd_ownedLines, ?_⟩
  intro a b hbeq
  have hwalks := beq_iff_forall₂_preorder.mp hbeq
  refine ⟨?_, ?_, ?_⟩
  · rw [← List.forall₂_eq_eq_eq, List.forall₂_map_left_iff, List.forall₂_map_right_iff]
    refine hwalks.imp fun first second hagree => ?_
    rw [hagree.1, kind, span, kind, span, hagree.2.info_eq]
  · rw [count_eq_length_preorder, count_eq_length_preorder, hwalks.length_eq]
  · intro indent depth
    rw [ownedLines, ownedLines, List.forall₂_map_left_iff, List.forall₂_map_right_iff]
    refine (forall₂_ownedLayout .root hbeq).imp fun first second haccord => ?_
    obtain ⟨hpair, heq | ⟨x, y, offset, hzeros, rfl, rfl⟩⟩ := haccord
    · exact ⟨hpair, .inl (congrArg (LayoutLine.render indent depth) heq)⟩
    · refine ⟨hpair, .inr ⟨x, y, min (depth.level + offset) Depth.limit, hzeros, ?_, ?_⟩⟩
      · rw [Prod.map, LayoutLine.render_eq_times]
        rfl
      · rw [Prod.map, LayoutLine.render_eq_times]
        rfl

example :
    let negated : Literal := .holding (.number (.signedZero true))
    let plain : Literal := .holding (.number (.signedZero false))
    (Node.literal negated == .literal plain) = true ∧
      negated.layout.getLast? = some ⟨1, "value: -0"⟩ ∧ plain.layout.getLast? = some ⟨1, "value: 0"⟩ := by
  decide

end TreeDump
