import TreeDump.Command.Options
import TreeDump.Proofs.Number.Numeral

namespace TreeDump.Command

/-- An option with its value, as arguments give it. -/
structure Setting where
  flag : Flag
  value : String

namespace Setting

/-- The two arguments of a setting. -/
def arguments (setting : Setting) : List String :=
  ["--" ++ setting.flag.name, setting.value]

/-- The value is no option itself. -/
def Plain (setting : Setting) : Prop :=
  Argument.ofText setting.value = .plain

end Setting

/-- Adds settings one after the other. -/
def Given.addAll (given : Given) (settings : List Setting) : Except UsageError Given :=
  settings.foldlM (fun given setting => given.add setting.flag setting.value) given

/-- What does not begin with a hyphen is no option. -/
theorem Argument.ofText_of_head_ne {text : String} {c : Char} {rest : List Char}
    (htext : text.toList = c :: rest) (hc : c ≠ '-') : Argument.ofText text = .plain := by
  simp [Argument.ofText, htext, hc]

theorem Argument.ofText_flag (flag : Flag) :
    Argument.ofText ("--" ++ flag.name) = .long flag.name none := by
  cases flag <;> rfl

theorem Flag.ofName?_name (flag : Flag) : Flag.ofName? flag.name = some flag := by
  cases flag <;> rfl

theorem readArguments_flag (flag : Flag) (given : Given) (pending : Option Pending)
    (rest : List String) :
    readArguments given pending (("--" ++ flag.name) :: rest) = (do
      readArguments (← given.settle pending) (some ⟨flag, none⟩) rest) := by
  have hname : flag.name ≠ "help" := by cases flag <;> simp [Flag.name]
  -- Only the reading on the left is to be opened, not what it goes on with.
  rw [readArguments.eq_def]
  simp only [Argument.ofText_flag]
  simp [hname, Flag.ofName?_name]

theorem readArguments_value {value : String} (hvalue : Argument.ofText value = .plain)
    (flag : Flag) (given : Given) (rest : List String) :
    readArguments given (some ⟨flag, none⟩) (value :: rest) =
      readArguments given (some ⟨flag, some value⟩) rest := by
  rw [readArguments.eq_def]
  simp only [hvalue]

theorem readArguments_setting {setting : Setting} (hplain : setting.Plain) (given : Given)
    (pending : Option Pending) (rest : List String) :
    readArguments given pending (setting.arguments ++ rest) = (do
      readArguments (← given.settle pending) (some ⟨setting.flag, some setting.value⟩) rest) := by
  have hvalue : Argument.ofText setting.value = .plain := hplain
  simp [Setting.arguments, readArguments_flag, readArguments_value hvalue]

/-- The induction leaves the value of the last setting waiting, as it does in the reading. -/
theorem readArguments_settings {settings : List Setting} (hplain : ∀ s ∈ settings, s.Plain)
    (given : Given) (pending : Option Pending) :
    readArguments given pending (settings.flatMap (·.arguments)) = (do
      return .dump (← (← given.settle pending).addAll settings).options) := by
  induction settings generalizing given pending with
  | nil => simp [readArguments, Given.addAll]
  | cons setting settings ih =>
    have hfirst : setting.Plain := hplain setting List.mem_cons_self
    have hrest : ∀ s ∈ settings, s.Plain := fun s hs =>
      hplain s (List.mem_cons_of_mem setting hs)
    rw [List.flatMap_cons, readArguments_setting hfirst]
    simp only [ih hrest, Given.settle, Given.addAll, List.foldlM_cons]
    simp

/-- What settings ask for is a dump, with the options they give. -/
theorem Request.ofArguments_settings {settings : List Setting} (hplain : ∀ s ∈ settings, s.Plain) :
    Request.ofArguments (settings.flatMap (·.arguments)) =
      (Given.none.addAll settings).map fun given => .dump given.options := by
  rw [Request.ofArguments, readArguments_settings hplain]
  change (Given.none.addAll settings).bind _ = _
  cases Given.none.addAll settings <;> rfl

/-- The word for a node of the sample tree. -/
def Root.name : Root → String
  | .program => "program"
  | .declaration => "declaration"

theorem readRoot_name (root : Root) : readRoot root.name = .ok root := by
  cases root <;> rfl

theorem readDepth_repr (depth : Depth) : readDepth (Nat.repr depth.level) = .ok depth := by
  have hlevel : depth.level ≤ 4294967295 := depth.level_le
  have hrange : (depth.level : Int) ≤ 4294967295 := by omega
  have hbound : depth.level ≤ Nat.pow 2 63 - 1 := Nat.le_trans hlevel (by decide)
  have hread := Numeral.readInt64_toDigits hbound
  simp [readDepth, hread, hrange]

theorem readIndent_repr {width : Nat} (hwidth : width ≤ Nat.pow 2 64 - 1) :
    readIndent (Nat.repr width) = .ok width := by
  simp [readIndent, Numeral.readUInt64_toDigits hwidth]

theorem Setting.plain_numeral (flag : Flag) (n : Nat) : Plain ⟨flag, Nat.repr n⟩ := by
  obtain ⟨c, digits, hdigits, _, hhyphen⟩ := Numeral.exists_toDigits_eq_cons n
  have htext : (Nat.repr n).toList = c :: digits := by
    rw [Nat.toList_repr, hdigits]
  exact Argument.ofText_of_head_ne htext hhyphen

theorem Setting.plain_root (root : Root) : Plain ⟨.root, root.name⟩ := by
  cases root <;> rfl

/-- Node, depth and width are read as they were written, and nothing else is set. -/
theorem Request.ofArguments_numerals {width : Nat} (hwidth : width ≤ Nat.pow 2 64 - 1) (root : Root)
    (depth : Depth) :
    Request.ofArguments
        ["--root", root.name, "--depth", Nat.repr depth.level, "--indent", Nat.repr width] =
      .ok (.dump ⟨depth, root, width, "warn"⟩) := by
  let settings : List Setting :=
    [⟨.root, root.name⟩, ⟨.depth, Nat.repr depth.level⟩, ⟨.indent, Nat.repr width⟩]
  have hplain : ∀ s ∈ settings, s.Plain := by
    simp [settings, Setting.plain_root, Setting.plain_numeral]
  have hadd : Given.none.addAll settings =
      .ok ⟨some depth, some root, some width, none⟩ := by
    simp [settings, Given.addAll, Given.add, Given.none, Given.has, readRoot_name, readDepth_repr,
      readIndent_repr hwidth, Except.map, bind, Except.bind, pure, Except.pure]
  have hread := Request.ofArguments_settings hplain
  rw [hadd] at hread
  exact hread

end TreeDump.Command
