import Mathlib.Data.List.Forall2
import TreeDump.Proofs.Tree.Tagged

namespace TreeDump

def Identifier.Alike (a b : Identifier) : Prop :=
  a.name = b.name

def Literal.Alike (a b : Literal) : Prop :=
  a.value.text = b.value.text

def Declarator.Alike (a b : Declarator) : Prop :=
  a.id.Alike b.id ∧ a.init.Alike b.init

/-- The keywords are the same, and so many declarators follow in the same order. -/
def Declaration.Alike (a b : Declaration) : Prop :=
  a.keyword = b.keyword ∧ List.Forall₂ Declarator.Alike a.declarators b.declarators

namespace Node

mutual

def Alike : Node → Node → Prop
  | .program _ body, .program _ body' => BodiesAlike body body'
  | .declaration a, .declaration b => a.Alike b
  | .declarator a, .declarator b => a.Alike b
  | .identifier a, .identifier b => a.Alike b
  | .expression _, .expression _ => True
  | .literal a, .literal b => a.Alike b
  | _, _ => False

/-- Bodies are alike if they have nodes that are alike in the same order, and as many of them. -/
def BodiesAlike : List Node → List Node → Prop
  | [], [] => True
  | a :: as, b :: bs => Alike a b ∧ BodiesAlike as bs
  | _, _ => False

end

theorem bodiesAlike_iff_forall₂ {as bs : List Node} :
    BodiesAlike as bs ↔ List.Forall₂ Alike as bs := by
  induction as generalizing bs with
  | nil =>
    cases bs with
    | nil => exact ⟨fun _ => .nil, fun _ => trivial⟩
    | cons b bs => exact ⟨fun halike => halike.elim, fun halike => nomatch halike⟩
  | cons a as ih =>
    cases bs with
    | nil => exact ⟨fun halike => halike.elim, fun halike => nomatch halike⟩
    | cons b bs =>
      rw [BodiesAlike, ih]
      constructor
      · rintro ⟨hhead, htail⟩
        exact .cons hhead htail
      · rintro (_ | ⟨hhead, htail⟩)
        exact ⟨hhead, htail⟩

theorem Alike.refl (node : Node) : node.Alike node := by
  induction node using children_induction with
  | hstep node ih =>
    cases node with
    | program info body => exact bodiesAlike_iff_forall₂.mpr (List.forall₂_same.mpr ih)
    | declaration d => exact ⟨rfl, List.forall₂_same.mpr fun _ _ => ⟨rfl, rfl⟩⟩
    | declarator d => exact ⟨rfl, rfl⟩
    | identifier i => exact rfl
    | expression e => exact trivial
    | literal l => exact rfl

/-- Trees stay alike whatever the spans of their nodes are changed to. -/
theorem alike_of_withSpan {start stop : UInt32} {node spanned : Node}
    (hspan : node.withSpan start stop = .ok spanned) : spanned.Alike node := by
  rw [withSpan_eq_map_withInfo] at hspan
  cases hinfo : node.info.withSpan start stop with
  | error fault =>
    rw [hinfo] at hspan
    cases hspan
  | ok info =>
    rw [hinfo] at hspan
    cases hspan
    have hnode := Alike.refl node
    cases node <;> exact hnode

/-- Nodes of one variant, with the contents of both. -/
inductive SameVariant : Node → Node → Prop where
  | program (info info' : NodeInfo) (body body' : List Node) :
      SameVariant (.program info body) (.program info' body')
  | declaration (a b : Declaration) : SameVariant (.declaration a) (.declaration b)
  | declarator (a b : Declarator) : SameVariant (.declarator a) (.declarator b)
  | identifier (a b : Identifier) : SameVariant (.identifier a) (.identifier b)
  | expression (a b : Expression) : SameVariant (.expression a) (.expression b)
  | literal (a b : Literal) : SameVariant (.literal a) (.literal b)

/-- A label names one variant only. -/
theorem sameVariant_of_label_eq {a b : Node} (hlabel : a.label = b.label) : SameVariant a b := by
  cases a <;> cases b <;> first | constructor | simp [label, NodeLike.label] at hlabel

theorem sameVariant_of_alike {a b : Node} (halike : a.Alike b) : SameVariant a b := by
  cases a <;> cases b <;> first | constructor | exact halike.elim

end Node

end TreeDump
