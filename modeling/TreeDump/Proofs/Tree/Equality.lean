import Mathlib.Data.List.Forall2
import TreeDump.Proofs.Number.Equality
import TreeDump.Proofs.Tree.Alike
import TreeDump.Tree.Equality

namespace TreeDump

section Beq

variable {α : Type} [BEq α]

instance partialEquivBEqOption [PartialEquivBEq α] : PartialEquivBEq (Option α) where
  symm {a b} hbeq := by
    cases a <;> cases b <;> simp_all [BEq.symm]
  trans {a b c} hab hbc := by
    cases a <;> cases b <;> cases c <;> simp_all
    exact BEq.trans hab hbc

theorem list_beq_iff_forall₂ {as bs : List α} :
    (as == bs) = true ↔ List.Forall₂ (fun a b => (a == b) = true) as bs := by
  induction as generalizing bs with
  | nil => cases bs <;> simp
  | cons a as ih => cases bs <;> simp [ih]

end Beq

namespace Node

def keyword? (node : Node) : Option Keyword :=
  node.declaration?.map (·.keyword)

def name? : Node → Option String
  | .identifier i => some i.name
  | _ => none

def value? : Node → Option Scalar
  | .literal l => some l.value
  | _ => none

/-- The nodes are alike in all that they hold apart from their children. Values are compared as
    values, everything else has to be the same. -/
structure SameFields (a b : Node) : Prop where
  variant_eq : a.variant = b.variant
  info_eq : a.info = b.info
  keyword_eq : a.keyword? = b.keyword?
  name_eq : a.name? = b.name?
  value_beq : (a.value? == b.value?) = true

variable {a b c : Node}

theorem SameFields.symm (hfields : a.SameFields b) : b.SameFields a where
  variant_eq := hfields.variant_eq.symm
  info_eq := hfields.info_eq.symm
  keyword_eq := hfields.keyword_eq.symm
  name_eq := hfields.name_eq.symm
  value_beq := BEq.symm hfields.value_beq

theorem SameFields.trans (hab : a.SameFields b) (hbc : b.SameFields c) : a.SameFields c where
  variant_eq := hab.variant_eq.trans hbc.variant_eq
  info_eq := hab.info_eq.trans hbc.info_eq
  keyword_eq := hab.keyword_eq.trans hbc.keyword_eq
  name_eq := hab.name_eq.trans hbc.name_eq
  value_beq := BEq.trans hab.value_beq hbc.value_beq

theorem sameFields_self_iff : a.SameFields a ↔ ∀ value ∈ a.value?, ¬ value.IsNaN := by
  have hvalue : (a.value? == a.value?) = true ↔ ∀ value ∈ a.value?, ¬ value.IsNaN := by
    cases a.value? with
    | none => simp
    | some value => simp [Scalar.beq_self_iff]
  rw [← hvalue]
  exact ⟨(·.value_beq), fun hbeq => ⟨rfl, rfl, rfl, rfl, hbeq⟩⟩

theorem sameVariant_of_variant_eq (hvariant : a.variant = b.variant) : SameVariant a b := by
  apply sameVariant_of_label_eq
  cases a <;> cases b <;> first | rfl | cases hvariant

theorem variant_eq_of_beq (hbeq : (a == b) = true) : a.variant = b.variant := by
  cases a <;> cases b <;> first | rfl | cases hbeq

theorem equalBodies_eq_beq (as bs : List Node) : equalBodies as bs = (as == bs) := by
  induction as generalizing bs with
  | nil => cases bs <;> rfl
  | cons a as ih =>
    cases bs with
    | nil => rfl
    | cons b bs =>
      rw [equalBodies, ih, List.cons_beq_cons]
      rfl

/-- One level of equality, the same for all variants. -/
theorem beq_iff :
    (a == b) = true ↔
      a.SameFields b ∧ List.Forall₂ (fun c d => (c == d) = true) a.children b.children := by
  by_cases hvariant : a.variant = b.variant
  · cases sameVariant_of_variant_eq hvariant with
    | program info info' body body' =>
      change (info == info' && equalBodies body body') = true ↔ _
      rw [Bool.and_eq_true, beq_iff_eq, equalBodies_eq_beq, list_beq_iff_forall₂]
      exact and_congr_left fun _ => ⟨fun hinfo => ⟨rfl, hinfo, rfl, rfl, rfl⟩, (·.info_eq)⟩
    | declaration a b =>
      change (a.info == b.info && a.keyword == b.keyword && a.declarators == b.declarators) = true ↔ _
      rw [Bool.and_eq_true, Bool.and_eq_true, beq_iff_eq, beq_iff_eq, list_beq_iff_forall₂, children,
        children, List.forall₂_map_left_iff, List.forall₂_map_right_iff]
      refine and_congr_left fun _ => ⟨?_, ?_⟩
      · rintro ⟨hinfo, hkeyword⟩
        exact ⟨rfl, hinfo, congrArg some hkeyword, rfl, rfl⟩
      · intro hfields
        exact ⟨hfields.info_eq, Option.some.inj hfields.keyword_eq⟩
    | declarator a b =>
      change (a.info == b.info && a.id == b.id && a.init == b.init) = true ↔ _
      rw [Bool.and_eq_true, Bool.and_eq_true, beq_iff_eq, children, children, List.forall₂_cons,
        List.forall₂_cons]
      constructor
      · rintro ⟨⟨hinfo, hid⟩, hinit⟩
        exact ⟨⟨rfl, hinfo, rfl, rfl, rfl⟩, hid, hinit, .nil⟩
      · rintro ⟨hfields, hid, hinit, _⟩
        exact ⟨⟨hfields.info_eq, hid⟩, hinit⟩
    | identifier a b =>
      change (a.info == b.info && a.name == b.name) = true ↔ _
      rw [Bool.and_eq_true, beq_iff_eq, beq_iff_eq]
      constructor
      · rintro ⟨hinfo, hname⟩
        exact ⟨⟨rfl, hinfo, rfl, congrArg some hname, rfl⟩, .nil⟩
      · rintro ⟨hfields, _⟩
        exact ⟨hfields.info_eq, Option.some.inj hfields.name_eq⟩
    | expression a b =>
      change (a.info == b.info) = true ↔ _
      rw [beq_iff_eq]
      exact ⟨fun hinfo => ⟨⟨rfl, hinfo, rfl, rfl, rfl⟩, .nil⟩, fun hboth => hboth.1.info_eq⟩
    | literal a b =>
      change (a.info == b.info && a.value == b.value) = true ↔ _
      rw [Bool.and_eq_true, beq_iff_eq]
      constructor
      · rintro ⟨hinfo, hvalue⟩
        exact ⟨⟨rfl, hinfo, rfl, rfl, hvalue⟩, .nil⟩
      · rintro ⟨hfields, _⟩
        exact ⟨hfields.info_eq, hfields.value_beq⟩
  · constructor
    · intro hbeq
      exact absurd (variant_eq_of_beq hbeq) hvariant
    · rintro ⟨hfields, _⟩
      exact absurd hfields.variant_eq hvariant

/-- The induction hypothesis gives both laws for the children of the first node only, so the second law
    goes through the lists side by side. -/
theorem forall₂_beq_trans {as bs cs : List Node}
    (hall : ∀ child ∈ as, ∀ b c, (child == b) = true → (b == c) = true → (child == c) = true)
    (hab : List.Forall₂ (fun a b => (a == b) = true) as bs)
    (hbc : List.Forall₂ (fun b c => (b == c) = true) bs cs) :
    List.Forall₂ (fun a c => (a == c) = true) as cs := by
  induction hab generalizing cs with
  | nil => exact hbc
  | cons hhead _ ih =>
    cases hbc with
    | cons hhead' htail' =>
      obtain ⟨hfirst, hrest⟩ := List.forall_mem_cons.mp hall
      exact .cons (hfirst _ _ hhead hhead') (ih hrest htail')

instance : PartialEquivBEq Node where
  symm {a b} hbeq := by
    induction a using children_induction generalizing b with
    | hstep a ih =>
      obtain ⟨hfields, hchildren⟩ := beq_iff.mp hbeq
      have hboth := (List.forall₂_and_left a.children b.children).mpr ⟨ih, hchildren⟩
      exact beq_iff.mpr ⟨hfields.symm, .flip (hboth.imp fun _ _ hchild => hchild.1 hchild.2)⟩
  trans {a b c} hab hbc := by
    induction a using children_induction generalizing b c with
    | hstep a ih =>
      obtain ⟨hfields, hchildren⟩ := beq_iff.mp hab
      obtain ⟨hfields', hchildren'⟩ := beq_iff.mp hbc
      refine beq_iff.mpr ⟨hfields.trans hfields', ?_⟩
      exact forall₂_beq_trans (fun child hchild b c => ih child hchild) hchildren hchildren'

/-- No literal of the tree holds a number that is none. -/
def FreeOfNaN (node : Node) : Prop :=
  node.Everywhere fun visited => ∀ value ∈ visited.value?, ¬ value.IsNaN

/-- A tree is equal to itself, and so to a copy of it, unless it holds a NaN. -/
theorem beq_self_iff (node : Node) : (node == node) = true ↔ node.FreeOfNaN := by
  induction node using children_induction with
  | hstep node ih =>
    rw [beq_iff, List.forall₂_same, FreeOfNaN, everywhere_iff, sameFields_self_iff]
    exact and_congr_right fun _ => forall₂_congr ih

end Node

end TreeDump
