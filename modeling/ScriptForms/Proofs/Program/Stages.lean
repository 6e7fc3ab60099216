import ScriptForms.Compile

/-!
# The steps of a compilation

A compilation ends in one of five ways: the tree is no program, the program cannot be printed, the
formatter fails, there is no run of it, or there is a text. `Ends` tells them apart, each with the
steps that went before and with what the tool was asked. There are two ways to compile a tree, and
each of them is compared with `Ends` on its own: the one that reports ends in one of these ways
(`ends_ofTree`), and the one that gives a text or an error ends in the same way, whichever it is
(`Ends.compile_eq`). So the two agree at whatever step a tree fails, and neither asks the tool
before there is a printed text.

A run that does not come about is no error that a report could list. It ends both ways of compiling,
and `FormatterFaults` says when this happens.
-/

namespace ScriptForms

/-- How the compilation of a tree ends: with which result, and with which questions to the tool. -/
inductive Ends (tool : Tool) (formatter : Formatter) (tree : Json) :
    Except (Raised CompileError) (String × Nat) → List ToolCall → Prop
  | unbuilt {cause : CompileError} (hbuild : Program.build tree .root = .error cause) :
      Ends tool formatter tree (.error (.error cause)) []
  | unprinted {program : Program} {cause : NodeError}
      (hbuild : Program.build tree .root = .ok program) (hprint : program.print = .error cause) :
      Ends tool formatter tree (.error (.error (.node cause))) []
  | unformatted {program : Program} {text : String} {cause : FormatError}
      (hbuild : Program.build tree .root = .ok program) (hprint : program.print = .ok text)
      (hformat : (formatter.format tool text).result = .error (.error cause)) :
      Ends tool formatter tree (.error (.error (.format cause))) (formatter.format tool text).calls
  | unanswered {program : Program} {text : String} {fault : ToolFault}
      (hbuild : Program.build tree .root = .ok program) (hprint : program.print = .ok text)
      (hformat : (formatter.format tool text).result = .error (.fault fault)) :
      Ends tool formatter tree (.error (.fault fault)) (formatter.format tool text).calls
  | finished {program : Program} {text code : String}
      (hbuild : Program.build tree .root = .ok program) (hprint : program.print = .ok text)
      (hformat : (formatter.format tool text).result = .ok code) :
      Ends tool formatter tree (.ok (code, program.forms.length)) (formatter.format tool text).calls

/-- The tree has a printed text and the formatter's executable is found, but there is no run of it
on this text, or nothing that it gives. -/
def FormatterFaults (tool : Tool) (formatter : Formatter) (tree : Json)
    (fault : ToolFault) : Prop :=
  ∃ program text style command executable,
    Program.build tree .root = .ok program ∧ program.print = .ok text ∧
      formatter = .zprint style command ∧ tool.locate command = some executable ∧
      tool.run executable (Formatter.options style) text = .error fault

section Steps

variable {tree : Json} {program : Program}

/-- Without a program there is nothing to print. -/
theorem printTree_of_unbuilt {cause : CompileError}
    (hbuild : Program.build tree .root = .error cause) : printTree tree = .error cause := by
  rw [printTree, hbuild]
  rfl

/-- A program that is printed is counted by its forms. -/
theorem printTree_of_built (hbuild : Program.build tree .root = .ok program) :
    printTree tree = (program.print.mapError CompileError.node).map (·, program.forms.length) := by
  rw [printTree, hbuild]
  show (do let text ← program.print.mapError CompileError.node
           return (text, program.forms.length)) = _
  cases program.print with
  | error cause => rfl
  | ok text => rfl

/-- What is left of a compilation once the program is printed. -/
theorem result_and_calls_compile {text : String} (tool : Tool) (formatter : Formatter)
    (hbuild : Program.build tree .root = .ok program) (hprint : program.print = .ok text) :
    (compile tool formatter tree).result =
        ((formatter.format tool text).result.mapError .ofFormat).map (·, program.forms.length) ∧
      (compile tool formatter tree).calls = (formatter.format tool text).calls := by
  have hprinted : printTree tree = .ok (text, program.forms.length) := by
    rw [printTree_of_built hbuild, hprint]
    rfl
  rw [compile, hprinted]
  exact ⟨rfl, rfl⟩

end Steps

namespace Formatter

variable {tool : Tool} {formatter : Formatter} {text : String}

/-- A run that has come about raises no fault, whatever its exit code. -/
theorem laidOut_eq_fault_iff {run : Except ToolFault ToolRun} {fault : ToolFault} :
    laidOut run = .error (.fault fault) ↔ run = .error fault := by
  cases run with
  | error cause => simp [laidOut]
  | ok run =>
    rw [laidOut]
    split
    · simp
    · simp

/-- A fault is raised only by the run that was asked for. -/
theorem format_eq_fault_iff {fault : ToolFault} :
    (formatter.format tool text).result = .error (.fault fault) ↔
      ∃ style command executable, formatter = .zprint style command ∧
        tool.locate command = some executable ∧
        tool.run executable (options style) text = .error fault := by
  constructor
  · intro h
    cases formatter with
    | identity => cases h
    | zprint style command =>
      rw [format] at h
      cases hlocate : tool.locate command with
      | none =>
        rw [hlocate] at h
        cases h
      | some executable =>
        rw [hlocate] at h
        exact ⟨style, command, executable, rfl, hlocate, laidOut_eq_fault_iff.1 h⟩
  · rintro ⟨style, command, executable, rfl, hlocate, hrun⟩
    rw [format, hlocate]
    exact laidOut_eq_fault_iff.2 hrun

end Formatter

namespace Ends

variable {tool : Tool} {formatter : Formatter} {tree : Json}
  {result : Except (Raised CompileError) (String × Nat)} {calls : List ToolCall}

/-- Compiling a tree gives the result that the tree ends with, and asks the same questions. -/
theorem compile_eq (h : Ends tool formatter tree result calls) :
    (compile tool formatter tree).result = result ∧
      (compile tool formatter tree).calls = calls := by
  cases h with
  | unbuilt hbuild =>
    rw [compile, printTree_of_unbuilt hbuild]
    exact ⟨rfl, rfl⟩
  | unprinted hbuild hprint =>
    rw [compile, printTree_of_built hbuild, hprint]
    exact ⟨rfl, rfl⟩
  | unformatted hbuild hprint hformat | unanswered hbuild hprint hformat
  | finished hbuild hprint hformat =>
    obtain ⟨hresult, hcalls⟩ := result_and_calls_compile tool formatter hbuild hprint
    rw [hresult, hformat]
    exact ⟨rfl, hcalls⟩

/-- A compilation ends with a fault exactly if the formatter has it. -/
theorem eq_fault_iff (h : Ends tool formatter tree result calls) {fault : ToolFault} :
    result = .error (.fault fault) ↔ FormatterFaults tool formatter tree fault := by
  constructor
  · rintro rfl
    cases h with
    | unanswered hbuild hprint hformat =>
      obtain ⟨style, command, executable, hzprint, hlocate, hrun⟩ :=
        Formatter.format_eq_fault_iff.1 hformat
      exact ⟨_, _, style, command, executable, hbuild, hprint, hzprint, hlocate, hrun⟩
  · rintro ⟨program, text, style, command, executable, hbuild, hprint, hzprint, hlocate, hrun⟩
    have hformat : (formatter.format tool text).result = .error (.fault fault) :=
      Formatter.format_eq_fault_iff.2 ⟨style, command, executable, hzprint, hlocate, hrun⟩
    rw [← h.compile_eq.1, (result_and_calls_compile tool formatter hbuild hprint).1, hformat]
    rfl

end Ends

/-- The outcome that a report gives for a result. There is none for a fault. -/
def Outcome.ofResult : Except (Raised CompileError) (String × Nat) → Except ToolFault Outcome
  | .ok (code, count) => .ok ⟨code, [], true, count⟩
  | .error (.error cause) => .ok (.failure cause)
  | .error (.fault fault) => .error fault

/-- The report on a tree gives the outcome for the result that the tree ends with, and the same
questions have been asked. -/
theorem CompileReport.ends_ofTree (tool : Tool) (config : Config) (tree : Json) :
    ∃ result, Ends tool (.ofConfig config) tree result (ofTree tool config tree).calls ∧
      (ofTree tool config tree).outcome = Outcome.ofResult result := by
  rw [ofTree]
  cases hbuild : Program.build tree .root with
  | error cause => exact ⟨_, .unbuilt hbuild, rfl⟩
  | ok program =>
    dsimp only
    cases hprint : program.print with
    | error cause => exact ⟨_, .unprinted hbuild hprint, rfl⟩
    | ok text =>
      dsimp only
      cases hformat : ((Formatter.ofConfig config).format tool text).result with
      | error raised =>
        cases raised with
        | error cause => exact ⟨_, .unformatted hbuild hprint hformat, rfl⟩
        | fault fault => exact ⟨_, .unanswered hbuild hprint hformat, rfl⟩
      | ok code => exact ⟨_, .finished hbuild hprint hformat, rfl⟩

end ScriptForms
