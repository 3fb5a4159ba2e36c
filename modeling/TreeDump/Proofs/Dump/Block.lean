import Mathlib.Data.List.Forall2
import TreeDump.Proofs.Dump.Indentation

namespace TreeDump

/-- Lines at a depth that may be any number, without a largest one. -/
def unboundedLines (indent : Indent) (level : Nat) (layout : List LayoutLine) : List String :=
  layout.map fun line => indent.times (level + line.offset) ++ line.text

section UnboundedLines

variable (indent : Indent) (level : Nat)

@[simp] theorem unboundedLines_nil : unboundedLines indent level [] = [] := rfl

@[simp] theorem unboundedLines_cons (line : LayoutLine) (layout : List LayoutLine) :
    unboundedLines indent level (line :: layout) =
      (indent.times (level + line.offset) ++ line.text) :: unboundedLines indent level layout := rfl

@[simp] theorem unboundedLines_append (first second : List LayoutLine) :
    unboundedLines indent level (first ++ second) =
      unboundedLines indent level first ++ unboundedLines indent level second :=
  List.map_append

@[simp] theorem unboundedLines_below (levels : Nat) (layout : List LayoutLine) :
    unboundedLines indent level (layout.map (.below levels)) =
      unboundedLines indent (level + levels) layout := by
  rw [unboundedLines, unboundedLines, List.map_map]
  refine List.map_congr_left fun line _ => ?_
  simp only [Function.comp_apply, LayoutLine.below, Nat.add_assoc]

/-- A list of children further in, each with its own layout. -/
theorem unboundedLines_flatMap_below {β : Type} (layout : β → List LayoutLine) (levels : Nat)
    (children : List β) :
    unboundedLines indent level (children.flatMap fun child => (layout child).map (.below levels)) =
      unboundedLines indent (level + levels) (children.flatMap layout) := by
  rw [← unboundedLines_below, List.map_flatMap]

end UnboundedLines

/-- The first line of a node with the given label. -/
def headerLine (indent : Indent) (level : Nat) (label : String) : String :=
  indent.times level ++ ("[" ++ label ++ "]:")

/-- Indentation before a header moves its bracket away from the front, where the other header has
    its own. An indent that begins with a bracket makes no difference, since a label contains
    none. -/
theorem headerLine_ne_of_lt {indent : Indent} (hunit : indent.unit ≠ "") {level deeper : Nat}
    (hlt : level < deeper) {label label' : String} (hlabel : '[' ∉ label.toList) :
    headerLine indent level label ≠ headerLine indent deeper label' := by
  intro hline
  have hsplit : deeper = level + (1 + (deeper - level - 1)) := by omega
  have hone : indent.times 1 = indent.unit := by simp [Indent.times]
  have hdeeper : headerLine indent deeper label' =
      indent.times level ++
        (indent.unit ++ indent.times (deeper - level - 1) ++ ("[" ++ label' ++ "]:")) := by
    rw [headerLine, hsplit, Indent.times_add, Indent.times_add, hone, String.append_assoc, ← hsplit]
  rw [headerLine, hdeeper, String.append_right_inj] at hline
  have hchars := congrArg String.toList hline
  cases hunitChars : indent.unit.toList with
  | nil => exact hunit (String.toList_eq_nil_iff.mp hunitChars)
  | cons c rest =>
    simp only [String.toList_append, hunitChars, List.cons_append] at hchars
    have hrest : label.toList ++ "]:".toList = rest ++ (indent.times (deeper - level - 1)).toList ++
        ("[".toList ++ label'.toList ++ "]:".toList) := (List.cons.inj hchars).2
    have hmem : '[' ∈ label.toList ++ "]:".toList := by
      rw [hrest]
      simp
    simp [hlabel] at hmem

theorem headerLine_inj {indent : Indent} {level : Nat} {label label' : String}
    (hline : headerLine indent level label = headerLine indent level label') : label = label' := by
  rwa [headerLine, headerLine, String.append_right_inj, String.append_left_inj,
    String.append_right_inj] at hline

/-- There are no lines, or the first is a header less deep than `level`. Lines like these follow
    after the children of a node, which have their headers at `level`. -/
def ContinuesAbove (indent : Indent) (level : Nat) (lines : List String) : Prop :=
  ∀ line ∈ lines.head?, ∃ shallower label,
    shallower < level ∧ '[' ∉ label.toList ∧ line = headerLine indent shallower label

theorem continuesAbove_nil (indent : Indent) (level : Nat) : ContinuesAbove indent level [] :=
  fun _ hline => nomatch hline

theorem ContinuesAbove.mono {indent : Indent} {level deeper : Nat} {lines : List String}
    (habove : ContinuesAbove indent level lines) (hle : level ≤ deeper) :
    ContinuesAbove indent deeper lines := by
  intro line hline
  obtain ⟨shallower, label, hlt, hlabel, heq⟩ := habove line hline
  exact ⟨shallower, label, Nat.lt_of_lt_of_le hlt hle, hlabel, heq⟩

/-- A layout that begins with the header of a node. -/
def BeginsWithHeader (layout : List LayoutLine) : Prop :=
  ∃ label rest, '[' ∉ label.toList ∧ layout = ⟨0, "[" ++ label ++ "]:"⟩ :: rest

section Blocks

variable {indent : Indent} {level : Nat} {β : Type} {layout : β → List LayoutLine}

theorem BeginsWithHeader.unboundedLines_eq_cons {block : List LayoutLine}
    (hheader : BeginsWithHeader block) (indent : Indent) (level : Nat) :
    ∃ label rest, '[' ∉ label.toList ∧
      unboundedLines indent level block = headerLine indent level label :: rest := by
  obtain ⟨label, rest, hlabel, rfl⟩ := hheader
  exact ⟨label, _, hlabel, rfl⟩

/-- What follows a block in a list of blocks is the header of the next one, or what follows the
    list. -/
theorem continuesAbove_flatMap_append (hheader : ∀ block, BeginsWithHeader (layout block))
    (blocks : List β) {rest : List String} (hrest : ContinuesAbove indent level rest) :
    ContinuesAbove indent (level + 1)
      (unboundedLines indent level (blocks.flatMap layout) ++ rest) := by
  cases blocks with
  | nil => exact hrest.mono (Nat.le_succ level)
  | cons block blocks =>
    obtain ⟨label, tail, hlabel, hlines⟩ := (hheader block).unboundedLines_eq_cons indent level
    intro line hline
    rw [List.flatMap_cons, unboundedLines_append, hlines, List.cons_append, List.cons_append,
      List.head?_cons, Option.mem_some] at hline
    exact ⟨level, label, Nat.lt_succ_self level, hlabel, hline.symm⟩

/-- A list of blocks cannot end where another goes on: the header of the next block stands deeper
    than any header that may follow the list. -/
theorem cons_append_ne_of_continuesAbove (hunit : indent.unit ≠ "") {block : List LayoutLine}
    (hheader : BeginsWithHeader block) {rest tail : List String}
    (hrest : ContinuesAbove indent level rest) :
    rest ≠ unboundedLines indent level block ++ tail := by
  obtain ⟨label, lines, hlabel, hlines⟩ := hheader.unboundedLines_eq_cons indent level
  intro heq
  rw [hlines, List.cons_append] at heq
  obtain ⟨shallower, label', hlt, hlabel', hline⟩ :=
    hrest (headerLine indent level label) (by rw [heq]; rfl)
  exact headerLine_ne_of_lt hunit hlt hlabel' hline.symm

/-- Equal lines of two lists of blocks come from lists that correspond block by block, if this holds
    of single blocks. The induction is on the first list; the rests are what carries it through. -/
theorem flatMap_append_inj (hunit : indent.unit ≠ "")
    (hheader : ∀ block, BeginsWithHeader (layout block)) {Same : β → β → Prop} {first : List β}
    (hblock : ∀ a ∈ first, ∀ b rest rest',
      ContinuesAbove indent (level + 1) rest → ContinuesAbove indent (level + 1) rest' →
      unboundedLines indent level (layout a) ++ rest =
        unboundedLines indent level (layout b) ++ rest' →
      Same a b ∧ rest = rest') :
    ∀ (second : List β) (rest rest' : List String),
      ContinuesAbove indent level rest → ContinuesAbove indent level rest' →
      unboundedLines indent level (first.flatMap layout) ++ rest =
        unboundedLines indent level (second.flatMap layout) ++ rest' →
      List.Forall₂ Same first second ∧ rest = rest' := by
  induction first with
  | nil =>
    intro second rest rest' hrest _ heq
    cases second with
    | nil => exact ⟨.nil, heq⟩
    | cons b second =>
      rw [List.flatMap_cons, unboundedLines_append, List.append_assoc] at heq
      exact absurd heq (cons_append_ne_of_continuesAbove hunit (hheader b) hrest)
  | cons a first ih =>
    intro second rest rest' hrest hrest' heq
    cases second with
    | nil =>
      rw [List.flatMap_cons, unboundedLines_append, List.append_assoc] at heq
      exact absurd heq.symm (cons_append_ne_of_continuesAbove hunit (hheader a) hrest')
    | cons b second =>
      rw [List.flatMap_cons, List.flatMap_cons, unboundedLines_append, unboundedLines_append,
        List.append_assoc, List.append_assoc] at heq
      obtain ⟨hsame, htail⟩ := hblock a List.mem_cons_self b _ _
        (continuesAbove_flatMap_append hheader first hrest)
        (continuesAbove_flatMap_append hheader second hrest') heq
      obtain ⟨hsecond, hrests⟩ := ih (fun c hc => hblock c (List.mem_cons_of_mem a hc))
        second rest rest' hrest hrest' htail
      exact ⟨.cons hsame hsecond, hrests⟩

end Blocks

end TreeDump
