import TreeDump.Proofs.Tree.Equality

namespace TreeDump

/-- Two steps of walks stand equally deep and at nodes with the same fields. -/
def Agree (first second : Nat × Node) : Prop :=
  first.1 = second.1 ∧ first.2.SameFields second.2

/-- There are no steps, or the first is less deep than `level`. Steps like these follow after the
    children of a node, which stand at `level`. -/
def ReturnsAbove (level : Nat) (walk : List (Nat × Node)) : Prop :=
  ∀ visited ∈ walk.head?, visited.1 < level

theorem ReturnsAbove.mono {level deeper : Nat} {walk : List (Nat × Node)}
    (habove : ReturnsAbove level walk) (hle : level ≤ deeper) : ReturnsAbove deeper walk :=
  fun visited hvisited => Nat.lt_of_lt_of_le (habove visited hvisited) hle

namespace Node

/-- Equal trees are walked alike. -/
theorem forall₂_preorderFrom {a b : Node} (hbeq : (a == b) = true) (depth : Nat) :
    List.Forall₂ Agree (a.preorderFrom depth) (b.preorderFrom depth) := by
  induction a using children_induction generalizing b depth with
  | hstep a ih =>
    obtain ⟨hfields, hchildren⟩ := beq_iff.mp hbeq
    have hwalks := ((List.forall₂_and_left a.children b.children).mpr ⟨ih, hchildren⟩).imp
      fun _ _ hchild => hchild.1 hchild.2 (depth + 1)
    rw [preorderFrom_eq, preorderFrom_eq, List.flatMap_def, List.flatMap_def]
    refine .cons ⟨rfl, hfields⟩ (List.rel_flatten ?_)
    rwa [List.forall₂_map_left_iff, List.forall₂_map_right_iff]

/-- After the walk of a child comes that of the next one, or what comes after all children. -/
theorem returnsAbove_flatMap_append {level : Nat} (siblings : List Node) {rest : List (Nat × Node)}
    (hrest : ReturnsAbove level rest) :
    ReturnsAbove (level + 1) (siblings.flatMap (preorderFrom level) ++ rest) := by
  cases siblings with
  | nil => exact hrest.mono (Nat.le_succ level)
  | cons sibling siblings =>
    intro visited hvisited
    rw [List.flatMap_cons, preorderFrom_eq, List.cons_append, List.cons_append, List.head?_cons,
      Option.mem_some] at hvisited
    rw [← hvisited]
    exact Nat.lt_succ_self level

/-- The children of one node cannot end where those of the other go on. -/
theorem not_forall₂_of_returnsAbove {level : Nat} {node : Node} {rest tail : List (Nat × Node)}
    (hrest : ReturnsAbove level rest) : ¬ List.Forall₂ Agree rest (node.preorderFrom level ++ tail) := by
  rw [preorderFrom_eq, List.cons_append]
  rintro (_ | @⟨visited, _, _, _, ⟨hdepth, _⟩, _⟩)
  exact Nat.ne_of_lt (hrest visited rfl) hdepth

/-- Walks that agree belong to lists that correspond node by node, if this holds of single nodes. The
    induction is on the first list; the rests are what carries it through. -/
theorem forall₂_of_flatMap_preorderFrom {level : Nat} {as : List Node}
    (hnode : ∀ a ∈ as, ∀ b rest rest', ReturnsAbove (level + 1) rest → ReturnsAbove (level + 1) rest' →
      List.Forall₂ Agree (a.preorderFrom level ++ rest) (b.preorderFrom level ++ rest') →
      (a == b) = true ∧ List.Forall₂ Agree rest rest') :
    ∀ (bs : List Node) (rest rest' : List (Nat × Node)),
      ReturnsAbove level rest → ReturnsAbove level rest' →
      List.Forall₂ Agree (as.flatMap (preorderFrom level) ++ rest)
        (bs.flatMap (preorderFrom level) ++ rest') →
      List.Forall₂ (fun a b => (a == b) = true) as bs ∧ List.Forall₂ Agree rest rest' := by
  induction as with
  | nil =>
    intro bs rest rest' hrest _ hwalks
    cases bs with
    | nil => exact ⟨.nil, hwalks⟩
    | cons b bs =>
      rw [List.flatMap_cons, List.append_assoc] at hwalks
      exact absurd hwalks (not_forall₂_of_returnsAbove hrest)
  | cons a as ih =>
    intro bs rest rest' hrest hrest' hwalks
    cases bs with
    | nil =>
      rw [List.flatMap_cons, List.append_assoc] at hwalks
      have hflipped : List.Forall₂ Agree rest'
          (a.preorderFrom level ++ (as.flatMap (preorderFrom level) ++ rest)) :=
        .flip (hwalks.imp fun _ _ hagree => ⟨hagree.1.symm, hagree.2.symm⟩)
      exact absurd hflipped (not_forall₂_of_returnsAbove hrest')
    | cons b bs =>
      rw [List.flatMap_cons, List.flatMap_cons, List.append_assoc, List.append_assoc] at hwalks
      obtain ⟨hbeq, htails⟩ := hnode a List.mem_cons_self b _ _
        (returnsAbove_flatMap_append as hrest) (returnsAbove_flatMap_append bs hrest') hwalks
      obtain ⟨hrests, hend⟩ := ih (fun c hc => hnode c (List.mem_cons_of_mem a hc))
        bs rest rest' hrest hrest' htails
      exact ⟨.cons hbeq hrests, hend⟩

theorem beq_of_forall₂_append (a b : Node) (depth : Nat) (rest rest' : List (Nat × Node))
    (hrest : ReturnsAbove (depth + 1) rest) (hrest' : ReturnsAbove (depth + 1) rest')
    (hwalks : List.Forall₂ Agree (a.preorderFrom depth ++ rest) (b.preorderFrom depth ++ rest')) :
    (a == b) = true ∧ List.Forall₂ Agree rest rest' := by
  induction a using children_induction generalizing b depth rest rest' with
  | hstep a ih =>
    rw [preorderFrom_eq, preorderFrom_eq, List.cons_append, List.cons_append,
      List.forall₂_cons] at hwalks
    obtain ⟨⟨_, hfields⟩, hbelow⟩ := hwalks
    obtain ⟨hchildren, hrests⟩ := forall₂_of_flatMap_preorderFrom
      (fun child hchild b => ih child hchild b (depth + 1)) b.children rest rest' hrest hrest' hbelow
    exact ⟨beq_iff.mpr ⟨hfields, hchildren⟩, hrests⟩

/-- Two trees are equal exactly if they are walked alike. -/
theorem beq_iff_forall₂_preorder {a b : Node} :
    (a == b) = true ↔ List.Forall₂ Agree a.preorder b.preorder := by
  constructor
  · intro hbeq
    exact forall₂_preorderFrom hbeq 0
  · intro hwalks
    have hempty : ReturnsAbove 1 [] := fun _ hvisited => nomatch hvisited
    refine (beq_of_forall₂_append a b 0 [] [] hempty hempty ?_).1
    rwa [List.append_nil, List.append_nil]

end Node

end TreeDump
