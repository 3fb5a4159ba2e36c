import TreeDump.Command.Run
import TreeDump.Proofs.Command.Arguments
import TreeDump.Proofs.Command.Conduct
import TreeDump.Proofs.Dump.Composition
import TreeDump.Proofs.Dump.Indentation

namespace TreeDump

/-- The lines of a program are its own three and those of the nodes in its body, each from two levels
    further in. -/
theorem dumpedLines_program (indent : Indent) (depth : Depth) (p : Program) :
    dumpedLines indent depth p =
      p.headLayout.map (·.render indent depth) ++
        p.body.flatMap (dumpedLines indent (depth.below 2)) := by
  have hnode (node : Node) :
      (node.layout.map (LayoutLine.below 2)).map (LayoutLine.render indent depth) =
        dumpedLines indent (depth.below 2) node := map_render_layout_below indent depth 2 node
  have hlayout : (toNode p).layout = p.headLayout ++ Node.bodyLayout p.body := rfl
  rw [dumpedLines_eq_map_render, hlayout, Node.bodyLayout_eq_flatMap, List.map_append,
    List.map_flatMap]
  simp only [hnode]

/-- The lines of any program above its body. -/
theorem Program.map_render_headLayout (indent : Indent) (depth : Depth) (p : Program) :
    p.headLayout.map (·.render indent depth) =
      [indent.times depth.level ++ "[Program]:", indent.times depth.level ++ "type: Program",
        indent.times (min (depth.level + 1) Depth.limit) ++ "body:"] := by
  have hlevel := depth.level_le
  have hhere : min (depth.level + 0) Depth.limit = depth.level := by
    simp only [Depth.limit]
    omega
  simp only [headLayout, List.map_cons, List.map_nil, LayoutLine.render_eq_times, hhere]
  rfl

namespace Command

/-- Whatever the depth and the indentation, the program shows what the declaration shows two levels
    further in, twice. -/
theorem dumpedLines_sampleProgram (indent : Indent) (depth : Depth) :
    dumpedLines indent depth sampleProgram =
      sampleProgram.headLayout.map (·.render indent depth) ++
        (dumpedLines indent (depth.below 2) sampleDeclaration ++
          dumpedLines indent (depth.below 2) sampleDeclaration) := by
  have hbody : sampleProgram.body = [toNode sampleDeclaration, toNode sampleDeclaration] := rfl
  rw [dumpedLines_program, hbody]
  simp [dumpedLines_toNode]

theorem width_le_of_ofWidth {width : Nat} {indent : Indent}
    (hindent : Indent.ofWidth width = .ok indent) : width ≤ Nat.pow 2 64 - 1 := by
  have hmax : Indent.maxWidth ≤ Nat.pow 2 64 - 1 := by decide
  by_cases hwidth : width ≤ Indent.maxWidth
  · exact Nat.le_trans hwidth hmax
  · rw [Indent.ofWidth, if_neg hwidth] at hindent
    cases hindent

/-- A run with an indent, room for it and a filter leaves the lines of its node on a writable
    output. -/
theorem run_numerals {width : Nat} {indent : Indent} (hindent : Indent.ofWidth width = .ok indent)
    {outside : Option String} (hreadable : Filter.Readable outside "warn") (root : Root)
    (depth : Depth) (hroom : HasRoom indent depth root.subject) :
    let outcome := run
      ["--root", root.name, "--depth", Nat.repr depth.level, "--indent", Nat.repr width]
      outside .unlimited
    outcome.exitCode = 0 ∧
      outcome.output = (terminated (dumpedLines indent depth root.subject)).toByteArray := by
  intro outcome
  have hrequest := Request.ofArguments_numerals (width_le_of_ofWidth hindent) root depth
  obtain ⟨filter, hfilter⟩ := hreadable
  have houtcome : outcome = _ := runWith_eq hrequest hfilter .writable
  rw [houtcome]
  simp [conduct, hindent, hroom]

/-- With a writable output the command dumps the program and the declaration alike, from any depth on
    and with any width for which the indentation fits, also that of the deepest lines, which stand six
    levels below the program: both runs succeed, both outputs are the lines of the node, each with its
    end, and that of the program is three lines and then twice that of the declaration from two levels
    further in. The sample program always has a declaration. A filter from outside makes no difference
    as long as one is chosen, which is so where none is given. -/
theorem run_program_eq_declaration_twice {width : Nat} {indent : Indent}
    (hindent : Indent.ofWidth width = .ok indent) (depth : Depth)
    (hfits : indent.Fits (depth.below 6)) :
    Filter.Readable none "warn" ∧ ∀ outside, Filter.Readable outside "warn" →
      let program := run
        ["--root", "program", "--depth", Nat.repr depth.level, "--indent", Nat.repr width]
        outside .unlimited
      let declaration := run
        ["--root", "declaration", "--depth", Nat.repr (min (depth.level + 2) Depth.limit),
          "--indent", Nat.repr width]
        outside .unlimited
      let head := terminated
        [indent.times depth.level ++ "[Program]:", indent.times depth.level ++ "type: Program",
          indent.times (min (depth.level + 1) Depth.limit) ++ "body:"]
      program.exitCode = 0 ∧ declaration.exitCode = 0 ∧
        program.output = head.toByteArray ++ declaration.output ++ declaration.output ∧
        program.output = (terminated (dumpedLines indent depth sampleProgram)).toByteArray ∧
        declaration.output =
          (terminated (dumpedLines indent (depth.below 2) sampleDeclaration)).toByteArray ∧
        ∀ (device : BoundedBytes) (indent : Indent) (depth : Depth) (root : Root),
          (dumpSample device indent depth root).failure ≠ some .noDeclaration := by
  refine ⟨Filter.readable_default, ?_⟩
  intro outside hreadable program declaration head
  have hprogram : ∀ line ∈ Root.program.subject.layout, line.offset ≤ 6 := by decide
  have hdeclaration : ∀ line ∈ Root.declaration.subject.layout, line.offset ≤ 4 := by decide
  have hfitsBelow : indent.Fits ((depth.below 2).below 4) := by
    rw [Depth.below_below]
    exact hfits
  obtain ⟨hprogramExit, hprogramOutput⟩ : program.exitCode = 0 ∧ program.output = _ :=
    run_numerals hindent hreadable .program depth (.of_fits hprogram hfits)
  obtain ⟨hdeclarationExit, hdeclarationOutput⟩ :
      declaration.exitCode = 0 ∧ declaration.output = _ :=
    run_numerals hindent hreadable .declaration (depth.below 2) (.of_fits hdeclaration hfitsBelow)
  simp only [Root.subject, dumpedLines_toNode] at hprogramOutput hdeclarationOutput
  have htwice : program.output = head.toByteArray ++ declaration.output ++ declaration.output := by
    rw [hprogramOutput, hdeclarationOutput, dumpedLines_sampleProgram,
      Program.map_render_headLayout, terminated_append, terminated_append, ← String.append_assoc,
      String.toByteArray_append, String.toByteArray_append]
  exact ⟨hprogramExit, hdeclarationExit, htwice, hprogramOutput, hdeclarationOutput,
    dumpSample_failure_ne⟩

/-- At the end of the range the declaration is one level further in, not two. -/
theorem run_program_eq_declaration_twice_at_limit :
    let program := run ["--root", "program", "--depth", "4294967294", "--indent", "0"] none .unlimited
    let declaration := run
      ["--root", "declaration", "--depth", "4294967295", "--indent", "0"] none .unlimited
    program.exitCode = 0 ∧ declaration.exitCode = 0 ∧
      program.output = "[Program]:\ntype: Program\nbody:\n".toByteArray ++ declaration.output ++
        declaration.output := by
  intro program declaration
  have hindent : Indent.ofWidth 0 = .ok ⟨""⟩ := rfl
  have hfits : Indent.Fits ⟨""⟩ (Depth.below ⟨4294967294, by decide⟩ 6) := by
    simp [Indent.Fits, Indent.utf8ByteSize_lead]
  have hblank (levels : Nat) : (⟨""⟩ : Indent).times levels = "" := by
    have htext := Indent.toList_times_of_ofWidth hindent levels
    simpa using htext
  obtain ⟨hreadable, hruns⟩ :=
    run_program_eq_declaration_twice hindent ⟨4294967294, by decide⟩ hfits
  obtain ⟨hprogram, hdeclaration, htwice, _⟩ := hruns none hreadable
  rw [hblank, hblank] at htwice
  exact ⟨hprogram, hdeclaration, htwice⟩

end Command

end TreeDump
