import Mathlib.Data.List.Forall2
import TreeDump.Proofs.Number.Plain
import TreeDump.Proofs.Text.Quoted
import TreeDump.Proofs.Tree.Alike
import TreeDump.Tree.Inspect

namespace TreeDump

/-- Scalars of one type with the same contents. Numbers are taken by their texts, which all NaNs share. -/
def Scalar.Congruent : Scalar → Scalar → Prop
  | .number x, .number y => x.inspect = y.inspect
  | .string s, .string t => s = t
  | .boolean p, .boolean q => p = q
  | .undefined, .undefined => True
  | _, _ => False

def Identifier.Congruent (a b : Identifier) : Prop :=
  a.info.span = b.info.span ∧ a.name = b.name

def Literal.Congruent (a b : Literal) : Prop :=
  a.info.span = b.info.span ∧ a.value.Congruent b.value

def Expression.Congruent (a b : Expression) : Prop :=
  a.info.span = b.info.span

def Declarator.Congruent (a b : Declarator) : Prop :=
  a.info.span = b.info.span ∧ a.id.Congruent b.id ∧ a.init.Congruent b.init

def Declaration.Congruent (a b : Declaration) : Prop :=
  a.info.span = b.info.span ∧ a.keyword = b.keyword ∧
    List.Forall₂ Declarator.Congruent a.declarators b.declarators

/-- Trees of the same shape, with the same spans, keywords and names and with congruent values. -/
inductive Node.Congruent : Node → Node → Prop where
  | program {info info' : NodeInfo} {body body' : List Node} (hspan : info.span = info'.span)
      (hbody : List.Forall₂ Node.Congruent body body') :
      Node.Congruent (.program info body) (.program info' body')
  | declaration {a b : Declaration} (hcongruent : a.Congruent b) :
      Node.Congruent (.declaration a) (.declaration b)
  | declarator {a b : Declarator} (hcongruent : a.Congruent b) :
      Node.Congruent (.declarator a) (.declarator b)
  | identifier {a b : Identifier} (hcongruent : a.Congruent b) :
      Node.Congruent (.identifier a) (.identifier b)
  | expression {a b : Expression} (hcongruent : a.Congruent b) :
      Node.Congruent (.expression a) (.expression b)
  | literal {a b : Literal} (hcongruent : a.Congruent b) : Node.Congruent (.literal a) (.literal b)

section Parts

open Text (ToldApart)

theorem Span.inspect_inj {s t : Span} : s.inspect = t.inspect ↔ s = t := by
  have hpoint (n : Nat) : '.' ∉ Nat.toDigits 10 n := fun hmem =>
    absurd (Nat.isDigit_of_mem_toDigits (by omega) (by omega) hmem) (by decide)
  obtain ⟨start, stop⟩ := s
  obtain ⟨start', stop'⟩ := t
  constructor
  · intro heq
    have hchars := congrArg String.toList heq
    simp only [inspect, String.toList_append, Nat.toList_repr, List.append_assoc] at hchars
    obtain ⟨hstart, hrest⟩ := (Text.append_mark_inj (hpoint _) (hpoint _)).mp hchars
    have hstop : Nat.toDigits 10 stop.toNat = Nat.toDigits 10 stop'.toNat := (List.cons.inj hrest).2
    rw [UInt32.toNat_inj.mp (toDigits_ten_inj hstart), UInt32.toNat_inj.mp (toDigits_ten_inj hstop)]
  · intro heq
    rw [heq]

theorem Span.parenthesis_not_mem_inspect (s : Span) : ')' ∉ s.inspect.toList := by
  have hdigits (n : Nat) : ')' ∉ Nat.toDigits 10 n := fun hmem =>
    absurd (Nat.isDigit_of_mem_toDigits (by omega) (by omega) hmem) (by decide)
  simp [inspect, hdigits]

/-- Where the stored kinds are the same, the spans alone make the difference. -/
theorem NodeInfo.toldApart_inspect {info info' : NodeInfo} (hkind : info.kind = info'.kind) :
    ToldApart info.inspect info'.inspect (info.span = info'.span) := by
  obtain ⟨kind, span⟩ := info
  obtain ⟨kind', span'⟩ := info'
  obtain rfl : kind = kind' := hkind
  have hkinds := (Text.toldApart_self kind.name).field "kind"
  refine .record "NodeData" (.congr (.comma hkinds (.field "range" ?_)) (by rw [true_and]))
  cases span with
  | none =>
    cases span' with
    | none => exact (Text.toldApart_self _).congr (by simp)
    | some t => exact (Text.toldApart_of_head_ne (c := 'N') (d := 'S') (by simp) (by simp [Text.variant])
        (by decide)).congr (by simp)
  | some s =>
    cases span' with
    | none => exact (Text.toldApart_of_head_ne (c := 'S') (d := 'N') (by simp [Text.variant]) (by simp)
        (by decide)).congr (by simp)
    | some t =>
      have hspans := Text.toldApart_variant_of_not_mem "Some" s.parenthesis_not_mem_inspect
        t.parenthesis_not_mem_inspect
      exact hspans.congr (Span.inspect_inj.trans Option.some_inj.symm)

theorem Binary64.parenthesis_not_mem_inspect (x : Binary64) : ')' ∉ x.inspect.toList := by
  intro hmem
  obtain hdigit | hmark := mem_inspect hmem
  · exact absurd hdigit (by decide)
  · exact absurd hmark (by decide)

theorem Scalar.parenthesis_not_mem_booleanText (value : Bool) : ')' ∉ (booleanText value).toList := by
  cases value <;> simp [booleanText]

theorem Scalar.booleanText_inj {p q : Bool} : booleanText p = booleanText q ↔ p = q := by
  cases p <;> cases q <;> decide

/-- The letter that a scalar begins with under inspection. Each type has its own. -/
def Scalar.initial : Scalar → Char
  | .number _ => 'N'
  | .string _ => 'S'
  | .boolean _ => 'B'
  | .undefined => 'U'

theorem Scalar.head?_inspect (v : Scalar) : v.inspect.toList.head? = some v.initial := by
  cases v <;> simp [inspect, initial, Text.variant]

theorem Scalar.Congruent.initial_eq {v w : Scalar} (hcongruent : v.Congruent w) : v.initial = w.initial := by
  cases v <;> cases w <;> first | rfl | exact hcongruent.elim

theorem Scalar.toldApart_inspect (v w : Scalar) : ToldApart v.inspect w.inspect (v.Congruent w) := by
  refine Text.toldApart_by_head v.head?_inspect w.head?_inspect (fun h => h.initial_eq) fun hinitial => ?_
  cases v with
  | number x =>
    cases w with
    | number y =>
      exact Text.toldApart_variant_of_not_mem "Number" x.parenthesis_not_mem_inspect
        y.parenthesis_not_mem_inspect
    | _ => simp [initial] at hinitial
  | string s =>
    cases w with
    | string t => exact (Text.toldApart_quoted s t).variant "String"
    | _ => simp [initial] at hinitial
  | boolean p =>
    cases w with
    | boolean q =>
      exact (Text.toldApart_variant_of_not_mem "Boolean" (parenthesis_not_mem_booleanText p)
        (parenthesis_not_mem_booleanText q)).congr booleanText_inj
    | _ => simp [initial] at hinitial
  | undefined =>
    cases w with
    | undefined => exact Text.toldApart_self "Undefined"
    | _ => simp [initial] at hinitial

/-- The letter that a keyword begins with under inspection. -/
def Keyword.initial : Keyword → Char
  | .letWord => 'L'
  | .constWord => 'C'
  | .varWord => 'V'

theorem Keyword.head?_inspect (keyword : Keyword) : keyword.inspect.toList.head? = some keyword.initial := by
  cases keyword <;> simp [inspect, initial]

theorem Keyword.initial_inj {k l : Keyword} (heq : k.initial = l.initial) : k = l := by
  cases k <;> cases l <;> first | rfl | simp [initial] at heq

theorem Keyword.toldApart_inspect (k l : Keyword) : ToldApart k.inspect l.inspect (k = l) := by
  refine Text.toldApart_by_head k.head?_inspect l.head?_inspect (congrArg initial) fun hinitial => ?_
  obtain rfl := initial_inj hinitial
  exact (Text.toldApart_self k.inspect).congr (by simp)

end Parts

section Nodes

open Text (ToldApart)

theorem Identifier.toldApart_inspect {a b : Identifier} (hkind : a.info.kind = b.info.kind) :
    ToldApart a.inspect b.inspect (a.Congruent b) :=
  .record "Identifier"
    (.comma (.field "data" (NodeInfo.toldApart_inspect hkind))
      (.field "name" (Text.toldApart_quoted a.name b.name)))

theorem Literal.toldApart_inspect {a b : Literal} (hkind : a.info.kind = b.info.kind) :
    ToldApart a.inspect b.inspect (a.Congruent b) :=
  .record "Literal"
    (.comma (.field "data" (NodeInfo.toldApart_inspect hkind))
      (.field "value" (a.value.toldApart_inspect b.value)))

theorem Expression.toldApart_inspect {a b : Expression} (hkind : a.info.kind = b.info.kind) :
    ToldApart a.inspect b.inspect (a.Congruent b) :=
  .record "Expression" (.field "data" (NodeInfo.toldApart_inspect hkind))

/-- Two nodes that store the kind of the variant that they have. -/
theorem Node.kind_eq_of_tagged {a b : Node} (ha : a.Tagged) (hb : b.Tagged)
    (hvariant : a.variant = b.variant) : a.info.kind = b.info.kind :=
  ((tagged_iff a).mp ha).1.trans (hvariant.trans ((tagged_iff b).mp hb).1.symm)

theorem Declarator.toldApart_inspect {a b : Declarator} (ha : (Node.declarator a).Tagged)
    (hb : (Node.declarator b).Tagged) : ToldApart a.inspect b.inspect (a.Congruent b) := by
  obtain ⟨hkind, hid, hinit⟩ := Node.tagged_declarator_iff.mp ha
  obtain ⟨hkind', hid', hinit'⟩ := Node.tagged_declarator_iff.mp hb
  exact .record "VariableDeclarator"
    (.comma (.field "data" (NodeInfo.toldApart_inspect (hkind.trans hkind'.symm)))
      (.comma (.field "id" (Identifier.toldApart_inspect (hid.trans hid'.symm)))
        (.field "init" (Literal.toldApart_inspect (hinit.trans hinit'.symm)))))

theorem Declaration.toldApart_inspect {a b : Declaration} (ha : (Node.declaration a).Tagged)
    (hb : (Node.declaration b).Tagged) : ToldApart a.inspect b.inspect (a.Congruent b) := by
  obtain ⟨hkind, hdeclarators⟩ := Node.tagged_declaration_iff.mp ha
  obtain ⟨hkind', hdeclarators'⟩ := Node.tagged_declaration_iff.mp hb
  have hlists := Text.toldApart_bracketed Declarator.inspect
    (fun c hc d hd => Declarator.toldApart_inspect (hdeclarators c hc) (hdeclarators' d hd))
    fun c => ⟨'V', by simp [Declarator.inspect, Text.record], by decide⟩
  exact .record "VariableDeclaration"
    (.comma (.field "data" (NodeInfo.toldApart_inspect (hkind.trans hkind'.symm)))
      (.comma (.field "kind" (Keyword.toldApart_inspect a.keyword b.keyword))
        (.field "declarations" hlists)))

namespace Node

theorem inspectBody_eq_map (body : List Node) : inspectBody body = body.map inspect := by
  induction body with
  | nil => rfl
  | cons node nodes ih => rw [inspectBody, ih, List.map_cons]

theorem inspect_eq_variant (node : Node) : node.inspect = Text.variant node.label node.inspectBare := by
  cases node <;> rfl

/-- A node begins with the letter of its label, not with a bracket. -/
theorem head?_inspect (node : Node) : ∃ c, node.inspect.toList.head? = some c ∧ c ≠ ']' := by
  rw [inspect_eq_variant]
  cases node <;> exact ⟨_, by simp [label, NodeLike.label, Text.variant]; rfl, by decide⟩

theorem blank_not_mem_label (node : Node) : ' ' ∉ node.label.toList := by
  cases node <;> simp [label, NodeLike.label]

theorem parenthesis_not_mem_label (node : Node) : '(' ∉ node.label.toList := by
  cases node <;> simp [label, NodeLike.label]

theorem exists_inspectBare_eq_record (node : Node) :
    ∃ fields, node.inspectBare = Text.record node.label fields := by
  cases node <;> exact ⟨_, rfl⟩

theorem Congruent.label_eq {a b : Node} (hcongruent : a.Congruent b) : a.label = b.label := by
  cases hcongruent <;> rfl

/-- In the name of its case a node is told apart from others as well as without. -/
theorem toldApart_inspect_of_bare {a b : Node}
    (hbare : ToldApart a.inspectBare b.inspectBare (a.Congruent b)) :
    ToldApart a.inspect b.inspect (a.Congruent b) := by
  rw [inspect_eq_variant, inspect_eq_variant]
  by_cases hlabel : a.label = b.label
  · rw [hlabel]
    exact hbare.variant b.label
  · have hparted := Text.toldApart_variant_of_name_ne a.parenthesis_not_mem_label
      b.parenthesis_not_mem_label hlabel a.inspectBare b.inspectBare
    exact hparted.congr ⟨False.elim, fun hcongruent => hlabel hcongruent.label_eq⟩

/-- The texts of two trees are told apart from the root down: the name of the variant, then the fields
    in turn, and the nodes of a body one by one. -/
theorem toldApart_inspectBare {a b : Node} (ha : a.Tagged) (hb : b.Tagged) :
    ToldApart a.inspectBare b.inspectBare (a.Congruent b) := by
  induction a using children_induction generalizing b with
  | hstep a ih =>
    by_cases hlabel : a.label = b.label
    · cases sameVariant_of_label_eq hlabel with
      | program info info' body body' =>
        obtain ⟨hkind, hbody⟩ := tagged_program_iff.mp ha
        obtain ⟨hkind', hbody'⟩ := tagged_program_iff.mp hb
        have hbodies := Text.toldApart_bracketed inspect
          (fun c hc d hd => toldApart_inspect_of_bare (ih c hc (hbody c hc) (hbody' d hd)))
          head?_inspect
        rw [← inspectBody_eq_map, ← inspectBody_eq_map] at hbodies
        have hfields : ToldApart (inspectBare (.program info body)) (inspectBare (.program info' body'))
            (info.span = info'.span ∧ List.Forall₂ Congruent body body') :=
          .record "Program"
            (.comma (.field "data" (NodeInfo.toldApart_inspect (hkind.trans hkind'.symm)))
              (.field "body" hbodies))
        exact hfields.congr ⟨fun h => .program h.1 h.2, fun | .program hspan hbody => ⟨hspan, hbody⟩⟩
      | declaration a b =>
        exact (Declaration.toldApart_inspect ha hb).congr
          ⟨.declaration, fun | .declaration hcongruent => hcongruent⟩
      | declarator a b =>
        exact (Declarator.toldApart_inspect ha hb).congr
          ⟨.declarator, fun | .declarator hcongruent => hcongruent⟩
      | identifier a b =>
        exact (Identifier.toldApart_inspect (kind_eq_of_tagged ha hb rfl)).congr
          ⟨.identifier, fun | .identifier hcongruent => hcongruent⟩
      | expression a b =>
        exact (Expression.toldApart_inspect (kind_eq_of_tagged ha hb rfl)).congr
          ⟨.expression, fun | .expression hcongruent => hcongruent⟩
      | literal a b =>
        exact (Literal.toldApart_inspect (kind_eq_of_tagged ha hb rfl)).congr
          ⟨.literal, fun | .literal hcongruent => hcongruent⟩
    · obtain ⟨fields, hfields⟩ := exists_inspectBare_eq_record a
      obtain ⟨fields', hfields'⟩ := exists_inspectBare_eq_record b
      have hparted := Text.toldApart_record_of_name_ne a.blank_not_mem_label b.blank_not_mem_label hlabel
        fields fields'
      rw [hfields, hfields']
      exact hparted.congr ⟨False.elim, fun hcongruent => hlabel hcongruent.label_eq⟩

end Node

end Nodes

/-- Two trees have the same text under inspection exactly if they are congruent: the same variants and
    children, spans, keywords and names, and values of the same types with the same contents. This holds of
    the text of a node as one of its own type, and of its text among other nodes. Names and strings may
    look like the text of a tree; they are quoted by the rule for ASCII, so for other characters this
    says nothing of an inspection that escapes them. Trees put together by the constructors are tagged;
    a node with another stored kind would show that kind. -/
theorem Node.inspect_eq_iff_congruent {a b : Node} (ha : a.Tagged) (hb : b.Tagged) :
    (a.inspectBare = b.inspectBare ↔ a.Congruent b) ∧ (a.inspect = b.inspect ↔ a.Congruent b) := by
  have hbare := toldApart_inspectBare ha hb
  exact ⟨hbare.eq_iff, (toldApart_inspect_of_bare hbare).eq_iff⟩

/-- Two names do not make the same text as one name that imitates what stands between them. -/
theorem Node.inspect_ne_of_imitated_name :
    let imitation := "x\" \x7d), Identifier(Identifier \x7b data: NodeData \x7b kind: Identifier, " ++
      "range: None \x7d, name: \"y"
    let one := Program.empty.append (.identifier (.named imitation))
    let two := (Program.empty.append (.identifier (.named "x"))).append (.identifier (.named "y"))
    (toNode one).Tagged ∧ (toNode two).Tagged ∧ one.inspect ≠ two.inspect := by
  intro imitation one two
  have hone : (toNode one).Tagged :=
    Program.tagged_append Program.tagged_empty (Identifier.tagged_named imitation)
  have htwo : (toNode two).Tagged :=
    Program.tagged_append (Program.tagged_append Program.tagged_empty (Identifier.tagged_named "x"))
      (Identifier.tagged_named "y")
  refine ⟨hone, htwo, fun heq => ?_⟩
  obtain ⟨_, hbody⟩ := (inspect_eq_iff_congruent hone htwo).1.mp heq
  exact absurd hbody.length_eq (by decide)

end TreeDump
