import Mathlib.Data.List.Forall2
import TreeDump.Text.Record

namespace TreeDump.Text

/-- The two texts are the same if `same` holds. If not, they differ at a place that both have, so that
    nothing put behind them makes them equal. -/
def ToldApart (first second : String) (same : Prop) : Prop :=
  ∀ rest rest' : String, first ++ rest = second ++ rest' ↔ same ∧ rest = rest'

namespace ToldApart

variable {s t s' t' : String} {same same' : Prop}

theorem eq_iff (happart : ToldApart s t same) : s = t ↔ same := by
  have hnothing := happart "" ""
  rwa [String.append_empty, String.append_empty, and_iff_left rfl] at hnothing

theorem congr (happart : ToldApart s t same) (hiff : same ↔ same') : ToldApart s t same' := by
  intro rest rest'
  rw [happart rest rest', hiff]

theorem append (hfront : ToldApart s t same) (hback : ToldApart s' t' same') :
    ToldApart (s ++ s') (t ++ t') (same ∧ same') := by
  intro rest rest'
  rw [String.append_assoc, String.append_assoc, hfront, hback, and_assoc]

/-- A common text in front changes nothing. -/
theorem behind (front : String) (happart : ToldApart s t same) :
    ToldApart (front ++ s) (front ++ t) same := by
  intro rest rest'
  rw [String.append_assoc, String.append_assoc, String.append_right_inj, happart]

/-- Nor does a common text behind. -/
theorem before (back : String) (happart : ToldApart s t same) :
    ToldApart (s ++ back) (t ++ back) same := by
  intro rest rest'
  rw [String.append_assoc, String.append_assoc, happart, String.append_right_inj]

/-- Texts that have parted do not come together again. -/
theorem parted (happart : ToldApart s t same) (hdifferent : ¬ same) (back back' : String) :
    ToldApart (s ++ back) (t ++ back') False := by
  intro rest rest'
  rw [String.append_assoc, String.append_assoc, happart]
  exact ⟨fun hsame => absurd hsame.1 hdifferent, fun hfalse => hfalse.1.elim⟩

end ToldApart

theorem toldApart_self (s : String) : ToldApart s s True := by
  intro rest rest'
  rw [String.append_right_inj, true_and]

theorem toldApart_of_head_ne {s t : String} {c d : Char} (hs : s.toList.head? = some c)
    (ht : t.toList.head? = some d) (hne : c ≠ d) : ToldApart s t False := by
  obtain ⟨tail, htail⟩ := List.head?_eq_some_iff.mp hs
  obtain ⟨tail', htail'⟩ := List.head?_eq_some_iff.mp ht
  intro rest rest'
  refine ⟨fun heq => ?_, fun hfalse => hfalse.1.elim⟩
  have hchars := congrArg String.toList heq
  rw [String.toList_append, String.toList_append, htail, htail', List.cons_append,
    List.cons_append] at hchars
  exact absurd (List.cons.inj hchars).1 hne

/-- Where the first character already tells, texts need a closer look only if they share it. -/
theorem toldApart_by_head {s t : String} {c d : Char} {same : Prop} (hs : s.toList.head? = some c)
    (ht : t.toList.head? = some d) (hhead : same → c = d) (hrest : c = d → ToldApart s t same) :
    ToldApart s t same := by
  by_cases heq : c = d
  · exact hrest heq
  · exact (toldApart_of_head_ne hs ht heq).congr ⟨False.elim, fun hsame => heq (hhead hsame)⟩

/-- Characters up to a mark that is not among them end where the mark stands first. -/
theorem append_mark_inj {mark : Char} {cs ds rest rest' : List Char} (hcs : mark ∉ cs) (hds : mark ∉ ds) :
    cs ++ mark :: rest = ds ++ mark :: rest' ↔ cs = ds ∧ rest = rest' := by
  induction cs generalizing ds with
  | nil =>
    cases ds with
    | nil => simp
    | cons d ds =>
      have hne : mark ≠ d := List.ne_of_not_mem_cons hds
      simp [hne]
  | cons c cs ih =>
    have hc : mark ≠ c := List.ne_of_not_mem_cons hcs
    cases ds with
    | nil => simp [hc.symm]
    | cons d ds =>
      rw [List.cons_append, List.cons_append, List.cons.injEq, List.cons.injEq,
        ih (List.not_mem_of_not_mem_cons hcs) (List.not_mem_of_not_mem_cons hds), and_assoc]

/-- Texts of any length are told apart by what ends them, if they do not hold its first character. -/
theorem toldApart_ended {s t ending : String} {mark : Char} (hending : ending.toList.head? = some mark)
    (hs : mark ∉ s.toList) (ht : mark ∉ t.toList) : ToldApart (s ++ ending) (t ++ ending) (s = t) := by
  obtain ⟨tail, htail⟩ := List.head?_eq_some_iff.mp hending
  intro rest rest'
  rw [← String.toList_inj, String.toList_append, String.toList_append, String.toList_append,
    String.toList_append, htail, List.append_assoc, List.append_assoc, List.cons_append,
    List.cons_append, append_mark_inj hs ht, List.append_right_inj, String.toList_inj, String.toList_inj]

section Records

variable {s t : String} {same same' : Prop}

theorem ToldApart.variant (name : String) (happart : ToldApart s t same) :
    ToldApart (variant name s) (variant name t) same :=
  ((happart.behind (name ++ "(")).before ")")

theorem ToldApart.field (label : String) (happart : ToldApart s t same) :
    ToldApart (label ++ ": " ++ s) (label ++ ": " ++ t) same :=
  happart.behind (label ++ ": ")

theorem ToldApart.comma {next next' : String} {items items' : List String} (hfirst : ToldApart s t same)
    (hrest : ToldApart (commaSeparated (next :: items)) (commaSeparated (next' :: items')) same') :
    ToldApart (commaSeparated (s :: next :: items)) (commaSeparated (t :: next' :: items'))
      (same ∧ same') :=
  (hfirst.before ", ").append hrest

theorem ToldApart.record (name : String) {fields fields' : List (String × String)}
    (hfields : ToldApart (commaSeparated (fields.map fun (label, value) => label ++ ": " ++ value))
      (commaSeparated (fields'.map fun (label, value) => label ++ ": " ++ value)) same) :
    ToldApart (Text.record name fields) (Text.record name fields') same :=
  (hfields.behind (name ++ " \x7b ")).before " \x7d"

/-- Records of different names part at the end of the shorter name, since no name holds a blank. -/
theorem toldApart_record_of_name_ne {name name' : String} (hname : ' ' ∉ name.toList)
    (hname' : ' ' ∉ name'.toList) (hne : name ≠ name') (fields fields' : List (String × String)) :
    ToldApart (record name fields) (record name' fields') False :=
  ((toldApart_ended rfl hname hname').parted hne _ _).parted id _ _

/-- An argument that holds no closing parenthesis ends at the first one. -/
theorem toldApart_variant_of_not_mem (name : String) (hs : ')' ∉ s.toList) (ht : ')' ∉ t.toList) :
    ToldApart (variant name s) (variant name t) (s = t) := by
  have happart := (toldApart_ended (show ")".toList.head? = some ')' from rfl) hs ht).behind (name ++ "(")
  rwa [← String.append_assoc, ← String.append_assoc] at happart

/-- Cases of different names part in the same way before the argument. -/
theorem toldApart_variant_of_name_ne {name name' : String} (hname : '(' ∉ name.toList)
    (hname' : '(' ∉ name'.toList) (hne : name ≠ name') (argument argument' : String) :
    ToldApart (variant name argument) (variant name' argument') False :=
  ((toldApart_ended rfl hname hname').parted hne _ _).parted id _ _

end Records

section Lists

variable {α : Type} {text : α → String} {R : α → α → Prop} {as bs : List α}

theorem commaSeparated_cons (item : String) (items : List String) :
    commaSeparated (item :: items) = item ++ String.join (items.map (", " ++ ·)) := by
  induction items generalizing item with
  | nil => simp [commaSeparated]
  | cons next items ih => simp [commaSeparated, ih, String.append_assoc]

/-- The items after the first, up to the bracket: a comma announces the next one. -/
theorem toldApart_furtherItems (hitems : ∀ a ∈ as, ∀ b ∈ bs, ToldApart (text a) (text b) (R a b)) :
    ToldApart (String.join ((as.map text).map (", " ++ ·)) ++ "]")
      (String.join ((bs.map text).map (", " ++ ·)) ++ "]") (List.Forall₂ R as bs) := by
  induction as generalizing bs with
  | nil =>
    cases bs with
    | nil => exact (toldApart_self _).congr (by simp)
    | cons b bs =>
      refine (toldApart_of_head_ne (c := ']') (d := ',') ?_ ?_ (by decide)).congr (by simp)
      · simp
      · simp
  | cons a as ih =>
    cases bs with
    | nil =>
      refine (toldApart_of_head_ne (c := ',') (d := ']') ?_ ?_ (by decide)).congr (by simp)
      · simp
      · simp
    | cons b bs =>
      have hfirst := (hitems a List.mem_cons_self b List.mem_cons_self).behind ", "
      have hrest := ih fun c hc d hd =>
        hitems c (List.mem_cons_of_mem a hc) d (List.mem_cons_of_mem b hd)
      have hboth := (hfirst.append hrest).congr List.forall₂_cons.symm
      simpa [String.append_assoc] using hboth

/-- A list in brackets, with the bracket that opens it set apart from the rest. -/
theorem bracketed_eq (items : List String) :
    bracketed items = "[" ++ (commaSeparated items ++ "]") :=
  String.append_assoc

/-- Lists in brackets are told apart if their items are. No item begins with a bracket, so an empty
    list is told from all others by its second character. -/
theorem toldApart_bracketed (text : α → String)
    (hitems : ∀ a ∈ as, ∀ b ∈ bs, ToldApart (text a) (text b) (R a b))
    (hopen : ∀ a, ∃ c, (text a).toList.head? = some c ∧ c ≠ ']') :
    ToldApart (bracketed (as.map text)) (bracketed (bs.map text)) (List.Forall₂ R as bs) := by
  have hhead (a : α) (items : List α) :
      ∃ c, (commaSeparated ((a :: items).map text) ++ "]").toList.head? = some c ∧ c ≠ ']' := by
    obtain ⟨c, hc, hne⟩ := hopen a
    refine ⟨c, ?_, hne⟩
    rw [List.map_cons, commaSeparated_cons, String.append_assoc, String.toList_append, List.head?_append,
      hc, Option.some_or]
  rw [bracketed_eq, bracketed_eq]
  apply ToldApart.behind
  cases as with
  | nil =>
    cases bs with
    | nil => exact (toldApart_self _).congr (by simp)
    | cons b bs =>
      obtain ⟨c, hc, hne⟩ := hhead b bs
      exact (toldApart_of_head_ne (by simp [commaSeparated]) hc hne.symm).congr (by simp)
  | cons a as =>
    cases bs with
    | nil =>
      obtain ⟨c, hc, hne⟩ := hhead a as
      exact (toldApart_of_head_ne hc (by simp [commaSeparated]) hne).congr (by simp)
    | cons b bs =>
      have hrest := toldApart_furtherItems fun c hc d hd =>
        hitems c (List.mem_cons_of_mem a hc) d (List.mem_cons_of_mem b hd)
      have hboth := (hitems a List.mem_cons_self b List.mem_cons_self).append hrest
      rw [List.map_cons, List.map_cons, commaSeparated_cons, commaSeparated_cons, String.append_assoc,
        String.append_assoc]
      exact hboth.congr List.forall₂_cons.symm

end Lists

end TreeDump.Text
