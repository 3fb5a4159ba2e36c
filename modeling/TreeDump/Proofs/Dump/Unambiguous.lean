import TreeDump.Proofs.Dump.Block
import TreeDump.Proofs.Tree.Alike

namespace TreeDump

theorem Keyword.eq_of_text_eq {a b : Keyword} (htext : a.text = b.text) : a = b := by
  have hread := ofText?_text a
  rw [htext, ofText?_text b] at hread
  exact (Except.ok.inj hread).symm

section AppendInj

variable {indent : Indent} {level : Nat} {rest rest' : List String}

theorem Identifier.layout_append_inj {a b : Identifier}
    (heq : unboundedLines indent level a.layout ++ rest =
      unboundedLines indent level b.layout ++ rest') :
    a.Alike b ∧ rest = rest' := by
  simp only [layout, unboundedLines_cons, unboundedLines_nil, List.cons_append, List.nil_append,
    List.cons.injEq] at heq
  obtain ⟨_, _, hname, hrest⟩ := heq
  rw [String.append_right_inj, String.append_right_inj] at hname
  exact ⟨hname, hrest⟩

theorem Literal.layout_append_inj {a b : Literal}
    (heq : unboundedLines indent level a.layout ++ rest =
      unboundedLines indent level b.layout ++ rest') :
    a.Alike b ∧ rest = rest' := by
  simp only [layout, unboundedLines_cons, unboundedLines_nil, List.cons_append, List.nil_append,
    List.cons.injEq] at heq
  obtain ⟨_, _, hvalue, hrest⟩ := heq
  rw [String.append_right_inj, String.append_right_inj] at hvalue
  exact ⟨hvalue, hrest⟩

theorem Expression.layout_append_inj {a b : Expression}
    (heq : unboundedLines indent level a.layout ++ rest =
      unboundedLines indent level b.layout ++ rest') :
    rest = rest' := by
  simp only [layout, unboundedLines_cons, unboundedLines_nil, List.cons_append, List.nil_append,
    List.cons.injEq] at heq
  obtain ⟨_, _, hrest⟩ := heq
  exact hrest

theorem Declarator.layout_append_inj {a b : Declarator}
    (heq : unboundedLines indent level a.layout ++ rest =
      unboundedLines indent level b.layout ++ rest') :
    a.Alike b ∧ rest = rest' := by
  simp only [layout, unboundedLines_append, unboundedLines_below, unboundedLines_cons,
    List.cons_append, List.nil_append, List.append_assoc, List.cons.injEq] at heq
  obtain ⟨_, _, _, hid⟩ := heq
  obtain ⟨hidAlike, hinit⟩ := Identifier.layout_append_inj hid
  obtain ⟨hinitAlike, hrest⟩ := Literal.layout_append_inj (List.cons.inj hinit).2
  exact ⟨⟨hidAlike, hinitAlike⟩, hrest⟩

theorem Declarator.beginsWithHeader (d : Declarator) : BeginsWithHeader d.layout :=
  ⟨"VariableDeclarator", _, by decide, rfl⟩

theorem Declaration.layout_append_inj (hunit : indent.unit ≠ "") {a b : Declaration}
    (hrest : ContinuesAbove indent (level + 1) rest)
    (hrest' : ContinuesAbove indent (level + 1) rest')
    (heq : unboundedLines indent level a.layout ++ rest =
      unboundedLines indent level b.layout ++ rest') :
    a.Alike b ∧ rest = rest' := by
  simp only [layout, unboundedLines_flatMap_below, unboundedLines_cons, List.cons_append,
    List.nil_append, List.cons.injEq] at heq
  obtain ⟨_, _, hkeyword, _, hdeclarators⟩ := heq
  rw [String.append_right_inj, String.append_right_inj] at hkeyword
  obtain ⟨halike, hrests⟩ := flatMap_append_inj hunit Declarator.beginsWithHeader
    (fun c _ d rest rest' _ _ hblock => Declarator.layout_append_inj hblock)
    b.declarators rest rest' hrest hrest' hdeclarators
  exact ⟨⟨Keyword.eq_of_text_eq hkeyword, halike⟩, hrests⟩

end AppendInj

namespace Node

variable {indent : Indent}

theorem beginsWithHeader (node : Node) : BeginsWithHeader node.layout := by
  refine ⟨node.label, node.layout.tail, ?_, ?_⟩
  · cases node <;> simp [label, NodeLike.label]
  · cases node <;> rfl

theorem label_eq_of_lines_eq {a b : Node} {level : Nat} {rest rest' : List String}
    (heq : unboundedLines indent level a.layout ++ rest =
      unboundedLines indent level b.layout ++ rest') :
    a.label = b.label := by
  have hhead (node : Node) : (unboundedLines indent level node.layout).head? =
      some (headerLine indent level node.label) := by
    cases node <;> rfl
  have hlines := congrArg List.head? heq
  rw [List.head?_append, List.head?_append, hhead a, hhead b] at hlines
  exact headerLine_inj (Option.some.inj hlines)

/-- Two trees are read from equal lines at once. The header tells the variant, and with it where the
    children stand; the rests begin no deeper than the nodes themselves, so they contain no
    child. -/
theorem layout_append_inj (hunit : indent.unit ≠ "") (a : Node) :
    ∀ (b : Node) (level : Nat) (rest rest' : List String),
      ContinuesAbove indent (level + 1) rest → ContinuesAbove indent (level + 1) rest' →
      unboundedLines indent level a.layout ++ rest = unboundedLines indent level b.layout ++ rest' →
      a.Alike b ∧ rest = rest' := by
  induction a using Node.children_induction with
  | hstep a ih =>
    intro b level rest rest' hrest hrest' heq
    cases sameVariant_of_label_eq (label_eq_of_lines_eq heq) with
    | program info info' body body' =>
      simp only [layout, bodyLayout_eq_flatMap, Program.headLayout, unboundedLines_flatMap_below,
        unboundedLines_cons, List.cons_append, List.nil_append, List.cons.injEq] at heq
      obtain ⟨_, _, _, hbody⟩ := heq
      have hdeeper : level + 1 ≤ level + 2 := Nat.le_succ _
      obtain ⟨halike, hrests⟩ := flatMap_append_inj hunit beginsWithHeader
        (fun child hchild other => ih child hchild other (level + 2))
        body' rest rest' (hrest.mono hdeeper) (hrest'.mono hdeeper) hbody
      exact ⟨bodiesAlike_iff_forall₂.mpr halike, hrests⟩
    | declaration a b => exact Declaration.layout_append_inj hunit hrest hrest' heq
    | declarator a b => exact Declarator.layout_append_inj heq
    | identifier a b => exact Identifier.layout_append_inj heq
    | expression a b => exact ⟨trivial, Expression.layout_append_inj heq⟩
    | literal a b => exact Literal.layout_append_inj heq

end Node

section LayoutEq

theorem flatMap_eq_of_forall₂ {β γ : Type} {Same : β → β → Prop} {layout : β → List γ}
    {as bs : List β} (hsame : List.Forall₂ Same as bs)
    (hlayout : ∀ a ∈ as, ∀ b ∈ bs, Same a b → layout a = layout b) :
    as.flatMap layout = bs.flatMap layout := by
  induction hsame with
  | nil => rfl
  | cons hhead _ ih =>
    rw [List.flatMap_cons, List.flatMap_cons,
      hlayout _ List.mem_cons_self _ List.mem_cons_self hhead,
      ih fun a ha b hb => hlayout a (List.mem_cons_of_mem _ ha) b (List.mem_cons_of_mem _ hb)]

theorem Identifier.layout_eq_of_alike {a b : Identifier} (ha : a.info.kind = .identifier)
    (hb : b.info.kind = .identifier) (halike : a.Alike b) : a.layout = b.layout := by
  have hname : a.name = b.name := halike
  rw [layout, layout, ha, hb, hname]
  rfl

theorem Literal.layout_eq_of_alike {a b : Literal} (ha : a.info.kind = .literal)
    (hb : b.info.kind = .literal) (halike : a.Alike b) : a.layout = b.layout := by
  have htext : a.value.text = b.value.text := halike
  rw [layout, layout, ha, hb, htext]
  rfl

theorem Declarator.layout_eq_of_alike {a b : Declarator} (ha : (Node.declarator a).Tagged)
    (hb : (Node.declarator b).Tagged) (halike : a.Alike b) : a.layout = b.layout := by
  obtain ⟨hkind, hid, hinit⟩ := Node.tagged_declarator_iff.mp ha
  obtain ⟨hkind', hid', hinit'⟩ := Node.tagged_declarator_iff.mp hb
  rw [layout, layout, hkind, hkind', Identifier.layout_eq_of_alike hid hid' halike.1,
    Literal.layout_eq_of_alike hinit hinit' halike.2]
  rfl

theorem Declaration.layout_eq_of_alike {a b : Declaration} (ha : (Node.declaration a).Tagged)
    (hb : (Node.declaration b).Tagged) (halike : a.Alike b) : a.layout = b.layout := by
  obtain ⟨hkind, hdeclarators⟩ := Node.tagged_declaration_iff.mp ha
  obtain ⟨hkind', hdeclarators'⟩ := Node.tagged_declaration_iff.mp hb
  obtain ⟨hkeyword, hsame⟩ := halike
  have hflat : (a.declarators.flatMap fun d => d.layout.map (LayoutLine.below 1)) =
      b.declarators.flatMap fun d => d.layout.map (LayoutLine.below 1) :=
    flatMap_eq_of_forall₂ hsame fun c hc d hd hcd => by
      rw [Declarator.layout_eq_of_alike (hdeclarators c hc) (hdeclarators' d hd) hcd]
  rw [layout, layout, hkind, hkind', hkeyword, hflat]
  rfl

/-- Trees that are alike have one layout, wherever their nodes came from. -/
theorem Node.layout_eq_of_alike {a b : Node} (ha : a.Tagged) (hb : b.Tagged) (halike : a.Alike b) :
    a.layout = b.layout := by
  induction a using Node.children_induction generalizing b with
  | hstep a ih =>
    cases sameVariant_of_alike halike with
    | program info info' body body' =>
      obtain ⟨_, hbody⟩ := tagged_program_iff.mp ha
      obtain ⟨_, hbody'⟩ := tagged_program_iff.mp hb
      have hsame : List.Forall₂ Alike body body' := bodiesAlike_iff_forall₂.mp halike
      have hflat : (body.flatMap fun node => node.layout.map (LayoutLine.below 2)) =
          body'.flatMap fun node => node.layout.map (LayoutLine.below 2) :=
        flatMap_eq_of_forall₂ hsame fun c hc d hd hcd => by
          rw [ih c hc (hbody c hc) (hbody' d hd) hcd]
      rw [layout, layout, bodyLayout_eq_flatMap, bodyLayout_eq_flatMap, hflat]
      rfl
    | declaration a b => exact Declaration.layout_eq_of_alike ha hb halike
    | declarator a b => exact Declarator.layout_eq_of_alike ha hb halike
    | identifier a b =>
      exact Identifier.layout_eq_of_alike (tagged_identifier_iff.mp ha)
        (tagged_identifier_iff.mp hb) halike
    | expression a b =>
      have hkind : a.info.kind = b.info.kind :=
        (tagged_expression_iff.mp ha).trans (tagged_expression_iff.mp hb).symm
      rw [layout, layout, Expression.layout, Expression.layout, hkind]
      rfl
    | literal a b =>
      exact Literal.layout_eq_of_alike (tagged_literal_iff.mp ha) (tagged_literal_iff.mp hb) halike

end LayoutEq

/-- Whatever the indent and the depth, trees that are alike are dumped alike. -/
theorem dumpedLines_eq_of_alike {a b : Node} (ha : a.Tagged) (hb : b.Tagged) (halike : a.Alike b)
    (indent : Indent) (depth : Depth) :
    dumpedLines indent depth a = dumpedLines indent depth b := by
  rw [dumpedLines_eq_map_render, dumpedLines_eq_map_render]
  change List.map _ a.layout = List.map _ b.layout
  rw [Node.layout_eq_of_alike ha hb halike]

/-- Spans leave no trace in a dump. -/
theorem dumpedLines_of_withSpan {start stop : UInt32} {node spanned : Node} (hnode : node.Tagged)
    (hspan : node.withSpan start stop = .ok spanned) (indent : Indent) (depth : Depth) :
    dumpedLines indent depth spanned = dumpedLines indent depth node :=
  dumpedLines_eq_of_alike (Node.tagged_of_withSpan hspan hnode) hnode (Node.alike_of_withSpan hspan)
    indent depth

/-- The offset of the line that stands furthest in. -/
def Node.reach (node : Node) : Nat :=
  (node.layout.map (·.offset)).foldr max 0

theorem Node.offset_le_reach {node : Node} {line : LayoutLine} (hline : line ∈ node.layout) :
    line.offset ≤ node.reach := by
  unfold reach
  generalize node.layout = layout at hline
  induction layout with
  | nil => cases hline
  | cons first layout ih =>
    rw [List.map_cons, List.foldr_cons]
    obtain rfl | hrest := List.mem_cons.mp hline
    · exact Nat.le_max_left _ _
    · exact Nat.le_trans (ih hrest) (Nat.le_max_right _ _)

/-- A dump in which no line reaches the largest depth has its lines where they would be without
    one. -/
theorem dumpedLines_eq_unboundedLines (indent : Indent) {depth : Depth} {node : Node}
    (hroom : depth.level + node.reach ≤ Depth.limit) :
    dumpedLines indent depth node = unboundedLines indent depth.level node.layout := by
  rw [dumpedLines_eq_map_render]
  refine List.map_congr_left fun line hline => ?_
  have hoffset : line.offset ≤ node.reach := Node.offset_le_reach hline
  rw [LayoutLine.render_eq_times, Nat.min_eq_left (by omega)]

/-- Two dumps without lines at the largest depth are equal exactly if their trees are alike: the
    same variants, children, keywords and names, and the same texts of values. The indent may be any
    text but the empty one, also one that looks like a part of the dump. Trees put together by the
    constructors are tagged; a node with another stored kind would show that kind. -/
theorem dumpedLines_eq_iff_alike {indent : Indent} (hunit : indent.unit ≠ "") {depth : Depth}
    {a b : Node} (ha : a.Tagged) (hb : b.Tagged) (hroom : depth.level + a.reach ≤ Depth.limit)
    (hroom' : depth.level + b.reach ≤ Depth.limit) :
    dumpedLines indent depth a = dumpedLines indent depth b ↔ a.Alike b := by
  constructor
  · intro hlines
    rw [dumpedLines_eq_unboundedLines indent hroom,
      dumpedLines_eq_unboundedLines indent hroom'] at hlines
    have hnil := continuesAbove_nil indent (depth.level + 1)
    exact (Node.layout_append_inj hunit a b depth.level [] [] hnil hnil (by rw [hlines])).1
  · intro halike
    exact dumpedLines_eq_of_alike ha hb halike indent depth

/-- A declarator inside a declaration is not dumped like one beside it, even if the indent is a
    bracket. -/
theorem dumpedLines_inside_ne_beside :
    let bound : Declarator := .uninitialized (.named "x")
    let inside : Node :=
      toNode (Program.empty.append (.declaration ((Declaration.empty .letWord).append bound)))
    let beside : Node :=
      toNode ((Program.empty.append (.declaration (.empty .letWord))).append (.declarator bound))
    inside.Tagged ∧ beside.Tagged ∧ Depth.zero.level + inside.reach ≤ Depth.limit ∧
      Depth.zero.level + beside.reach ≤ Depth.limit ∧
      dumpedLines ⟨"["⟩ .zero inside ≠ dumpedLines ⟨"["⟩ .zero beside := by
  intro bound inside beside
  have hbound : (Node.declarator bound).Tagged :=
    Declarator.tagged_binding (Identifier.tagged_named "x") (Literal.tagged_holding .undefined)
  have hinside : inside.Tagged :=
    Program.tagged_append Program.tagged_empty
      (Declaration.tagged_append (Declaration.tagged_empty .letWord) hbound)
  have hbeside : beside.Tagged :=
    Program.tagged_append
      (Program.tagged_append Program.tagged_empty (Declaration.tagged_empty .letWord)) hbound
  have hroom : Depth.zero.level + inside.reach ≤ Depth.limit := by decide
  have hroom' : Depth.zero.level + beside.reach ≤ Depth.limit := by decide
  refine ⟨hinside, hbeside, hroom, hroom', fun hlines => ?_⟩
  have halike : inside.Alike beside :=
    (dumpedLines_eq_iff_alike (by decide) hinside hbeside hroom hroom').mp hlines
  exact halike.2.elim

end TreeDump
