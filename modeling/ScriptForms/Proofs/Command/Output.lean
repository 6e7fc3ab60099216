import ScriptForms.Proofs.Command.Exits

/-!
# What a compilation from the command line leaves behind

A compilation is delivered as a whole or not at all. If the command does not end with the exit code
0, there is nothing on standard output and no regular file has been touched, even if directories
have been created for a file that could then not be written. If it ends with 0, the code is in the
file that was asked for, or on standard output, and nothing else has changed.

All this is on the assumption that a write which fails has written nothing (`CleanFailure`). It can
be wrong only for a text with a surrogate: opening the file for it empties the file, and only then
is the surrogate noticed.

Each end of the command in `Exit` leaves the code behind or nothing (`Exit.leaves`). For the
delivery of the code this is a case analysis on what the file system or standard output makes of it
(`deliver_file_cases`, `deliver_stdout_cases`).
-/

namespace ScriptForms.Command

open FileSystem

/-- `after` has the given contents at the location that `path` leads to, and is otherwise like
`before` in its regular files. -/
def Written (path : Path) (bytes : List UInt8) (before after : FileSystem) : Prop :=
  ∃ target, after.locate path = .ok target ∧ after.entryAt? target = some (.file bytes) ∧
    SameFilesExcept [target] before after

/-- A file that was written can be read at its path. -/
theorem Written.read?_eq {path : Path} {bytes : List UInt8} {before after : FileSystem}
    (h : Written path bytes before after) : after.read? path = .ok (some bytes) := by
  obtain ⟨target, hlocate, hentry, -⟩ := h
  rw [FileSystem.read?, lookup?, hlocate, entryOf?, hentry]
  rfl

/-- If the output of a text fails, no regular file has been touched. -/
def CleanFailure (files : FileSystem) (path : Path) (code : String) : Prop :=
  ∀ e, (writeOutput files path code).error? = some e →
    SameFilesExcept [] files (writeOutput files path code).files

section Files

variable {files : FileSystem} {path : Path} {code : String} {bytes : List UInt8}

/-- Writing bytes fails and touches no regular file, or leaves them where they were asked for. -/
theorem writeOutput_cases (h : Text.encode? code.toList = some bytes) :
    (∃ e, (writeOutput files path code).error? = some e ∧
      SameFilesExcept [] files (writeOutput files path code).files) ∨
    (writeOutput files path code).error? = none ∧
      Written path bytes files (writeOutput files path code).files := by
  have hmade : SameFilesExcept [] files (files.makeDirectories path.parent).files :=
    sameFilesExcept_makeDirectories files path.parent
  rw [writeOutput_of_encoded h]
  cases herror : (files.makeDirectories path.parent).error? with
  | some e =>
    rw [Change.andThen_of_some herror]
    exact .inl ⟨e, herror, hmade⟩
  | none =>
    rw [Change.andThen_of_none herror]
    generalize (files.makeDirectories path.parent).files = made at hmade ⊢
    obtain ⟨failure, hwrite⟩ | ⟨target, hlocate, hentry, hwrite⟩ := write_cases made path bytes
    · rw [hwrite]
      exact .inl ⟨_, rfl, hmade⟩
    · rw [hwrite]
      refine .inr ⟨rfl, target, locate_put hlocate hentry, entryAt?_put_self _ _ _, ?_⟩
      exact hmade.trans (sameFilesExcept_put made target _)

/-- The assumption holds for every text that has bytes. -/
theorem cleanFailure_of_encoded (h : Text.encode? code.toList ≠ none) :
    CleanFailure files path code := by
  obtain ⟨bytes, hbytes⟩ := Option.ne_none_iff_exists'.1 h
  intro e he
  obtain ⟨-, -, hsame⟩ | ⟨hnone, -⟩ := writeOutput_cases hbytes
  · exact hsame
  · cases hnone.symm.trans he

/-- It does not hold where a file is replaced by a text with a surrogate: the file is empty then. -/
example :
    let files : FileSystem := ⟨["work"], [(["work", "f"], .file [97])]⟩
    let change := writeOutput files ⟨0, ["f"]⟩ (String.ofList (Text.ofCodePoint 0xD800))
    change.error? = some ⟨.unencodable, ⟨0, ["f"]⟩⟩ ∧
      files.read? ⟨0, ["f"]⟩ = .ok (some [97]) ∧
      change.files.read? ⟨0, ["f"]⟩ = .ok (some []) := by
  decide +kernel

/-- A text that was written has bytes. -/
theorem exists_written_of_error?_eq_none (h : (writeOutput files path code).error? = none) :
    ∃ bytes, Text.encode? code.toList = some bytes ∧
      Written path bytes files (writeOutput files path code).files := by
  cases hencode : Text.encode? code.toList with
  | some bytes =>
    obtain ⟨e, he, -⟩ | ⟨-, hwritten⟩ := writeOutput_cases hencode
    · cases he.symm.trans h
    · exact ⟨bytes, rfl, hwritten⟩
  | none =>
    rw [writeOutput_of_unencodable hencode] at h
    cases hempty : (writeOutput files path "").error? with
    | some e =>
      rw [Change.andThen_of_some hempty] at h
      cases hempty.symm.trans h
    | none =>
      rw [Change.andThen_of_none hempty] at h
      cases h

/-- A delivery to a file leaves the code there, or ends without the exit code 0, with the files as
the failure has left them. Nothing is told on the console either way. -/
theorem deliver_file_cases (files : FileSystem) (log : List LogRecord) (calls : List ToolCall)
    (path : Path) (outcome : Outcome) :
    let effect := deliver files log calls (some path) outcome
    effect.stdout = "" ∧ effect.printed = [] ∧
      (effect.result ≠ .ok 0 ∧ (∃ e, (writeOutput files path outcome.code).error? = some e) ∧
          effect.files = (writeOutput files path outcome.code).files ∨
        effect.result = .ok 0 ∧ ∃ bytes, Text.encode? outcome.code.toList = some bytes ∧
          Written path bytes files effect.files) := by
  cases herror : (writeOutput files path outcome.code).error? with
  | some e =>
    obtain ⟨-, hdeliver⟩ | ⟨-, message, hdeliver⟩ := deliver_of_unwritten log calls outcome herror
    · rw [hdeliver]
      exact ⟨rfl, rfl, .inl ⟨fun hzero ↦ (by cases hzero), ⟨e, rfl⟩, rfl⟩⟩
    · rw [hdeliver]
      exact ⟨rfl, rfl, .inl ⟨fun hzero ↦ (by cases hzero), ⟨e, rfl⟩, rfl⟩⟩
  | none =>
    obtain ⟨hresult, hstdout, hprinted, hfiles⟩ := deliver_of_written outcome herror
    refine ⟨hstdout, hprinted, .inr ⟨hresult, ?_⟩⟩
    rw [hfiles]
    exact exists_written_of_error?_eq_none herror

/-- A delivery to standard output touches no file. It ends without the exit code 0, and with nothing
on standard output, or the code is there, with the last line complete. -/
theorem deliver_stdout_cases (files : FileSystem) (log : List LogRecord) (calls : List ToolCall)
    (outcome : Outcome) :
    let effect := deliver files log calls none outcome
    effect.files = files ∧ effect.printed = [] ∧
      (effect.result ≠ .ok 0 ∧ effect.stdout = "" ∨
        effect.result = .ok 0 ∧ ∃ bytes, Text.encode? outcome.code.toList = some bytes ∧
          effect.stdout = completeLine outcome.code) := by
  cases hencode : Text.encode? outcome.code.toList with
  | none =>
    rw [deliver_of_unencodable outcome hencode]
    exact ⟨rfl, rfl, .inl ⟨fun hzero ↦ (by cases hzero), rfl⟩⟩
  | some bytes =>
    rw [deliver_of_encoded outcome hencode]
    exact ⟨rfl, rfl, .inr ⟨rfl, bytes, rfl, rfl⟩⟩

end Files

/-- A line feed is added to a text exactly if the text does not end in one. -/
theorem completeLine_eq (code : String) :
    (['\n'] <:+ code.toList → completeLine code = code) ∧
      (¬['\n'] <:+ code.toList → completeLine code = code ++ "\n") := by
  have hlast : code.toList.getLast? = some '\n' ↔ ['\n'] <:+ code.toList := by
    rw [List.getLast?_eq_some_iff]
    exact ⟨Exists.imp fun _ h ↦ h.symm, Exists.imp fun _ h ↦ h.symm⟩
  rw [completeLine, ← hlast]
  exact ⟨fun h ↦ if_pos h, fun h ↦ if_neg h⟩

/-- The command has failed without anything on standard output, and without touching a regular
file if a failure to write the code has written nothing. -/
structure LeavesNothing (world : World) (request : CompileRequest) (effect : Effect) : Prop where
  result_ne : effect.result ≠ .ok 0
  stdout_eq : effect.stdout = ""
  sameFiles : (∀ path code count, request.output = some path →
      CompilesTo world request code count → CleanFailure world.files path code) →
    SameFilesExcept [] world.files effect.files

/-- The command has ended with the exit code 0, and the code for the input is where it was asked
for. -/
structure LeavesCode (world : World) (request : CompileRequest) (effect : Effect) : Prop where
  result_eq : effect.result = .ok 0
  delivered : ∃ code count bytes, CompilesTo world request code count ∧
    Text.encode? code.toList = some bytes ∧
    (∀ path, request.output = some path → effect.stdout = "" ∧
      Written path bytes world.files effect.files) ∧
    (request.output = none → effect.files = world.files ∧
      (['\n'] <:+ code.toList → effect.stdout = code) ∧
      (¬['\n'] <:+ code.toList → effect.stdout = code ++ "\n"))

section Effects

variable {world : World} {request : CompileRequest} {code : String} {count : Nat}

/-- A delivery of code leaves it behind, or nothing. -/
theorem CompilesTo.leaves_deliver (h : CompilesTo world request code count)
    (log : List LogRecord) (calls : List ToolCall) :
    let effect := deliver world.files log calls request.output ⟨code, [], true, count⟩
    effect.printed = [] ∧
      (LeavesNothing world request effect ∨ LeavesCode world request effect) := by
  cases houtput : request.output with
  | none =>
    obtain ⟨hfiles, hprinted, hcases⟩ :=
      deliver_stdout_cases world.files log calls ⟨code, [], true, count⟩
    refine ⟨hprinted, hcases.imp ?_ ?_⟩
    · rintro ⟨hresult, hstdout⟩
      refine ⟨hresult, hstdout, fun _ ↦ ?_⟩
      rw [hfiles]
      exact .refl _ _
    · rintro ⟨hresult, bytes, hencode, hstdout⟩
      refine ⟨hresult, code, count, bytes, h, hencode, fun path hpath ↦ ?_, fun _ ↦ ?_⟩
      · cases houtput.symm.trans hpath
      · rw [hstdout]
        exact ⟨hfiles, completeLine_eq code⟩
  | some path =>
    obtain ⟨hstdout, hprinted, hcases⟩ :=
      deliver_file_cases world.files log calls path ⟨code, [], true, count⟩
    refine ⟨hprinted, hcases.imp ?_ ?_⟩
    · rintro ⟨hresult, ⟨e, he⟩, hfiles⟩
      refine ⟨hresult, hstdout, fun hassumed ↦ ?_⟩
      rw [hfiles]
      exact hassumed path code count houtput h e he
    · rintro ⟨hresult, bytes, hencode, hwritten⟩
      refine ⟨hresult, code, count, bytes, h, hencode, fun other hother ↦ ?_, fun hnone ↦ ?_⟩
      · cases houtput.symm.trans hother
        exact ⟨hstdout, hwritten⟩
      · cases houtput.symm.trans hnone

/-- However the command ends, it has left the code behind, or nothing. -/
theorem Exit.leaves {effect : Effect} (h : Exit world request effect) :
    effect.printed = [] ∧
      (LeavesNothing world request effect ∨ LeavesCode world request effect) := by
  cases h with
  | escaped h => exact ⟨rfl, .inl ⟨fun hzero ↦ (by cases hzero), rfl, fun _ ↦ .refl _ _⟩⟩
  | failed log calls message =>
    exact ⟨rfl, .inl ⟨fun hzero ↦ (by cases hzero), rfl, fun _ ↦ .refl _ _⟩⟩
  | delivered hcompiles => exact hcompiles.leaves_deliver _ _

end Effects

/-- **All or nothing.** If the command does not end with the exit code 0, it has put nothing on
standard output and touched no regular file, provided that a failure to write the code has written
nothing; and so it is for all code without a surrogate. If the command ends with 0, there is code
for the input. With an output path, the file holds exactly this code and nothing else has happened.
Without one, no file has changed, and the code is on standard output, with a line feed behind it if
it does not end in one. -/
theorem runCompile_all_or_nothing (world : World) (request : CompileRequest) :
    let effect := runCompile world request
    effect.printed = [] ∧
    (effect.result ≠ .ok 0 → effect.stdout = "" ∧
      ((∀ path code count, request.output = some path → CompilesTo world request code count →
        CleanFailure world.files path code) → SameFilesExcept [] world.files effect.files)) ∧
    (∀ path code, Text.encode? code.toList ≠ none → CleanFailure world.files path code) ∧
    (effect.result = .ok 0 → ∃ code count bytes, CompilesTo world request code count ∧
      Text.encode? code.toList = some bytes ∧
      (∀ path, request.output = some path → effect.stdout = "" ∧
        Written path bytes world.files effect.files) ∧
      (request.output = none → effect.files = world.files ∧
        (['\n'] <:+ code.toList → effect.stdout = code) ∧
        (¬['\n'] <:+ code.toList → effect.stdout = code ++ "\n"))) := by
  intro effect
  obtain ⟨hprinted, hleaves⟩ := (exit_runCompile world request).leaves
  refine ⟨hprinted, fun hfailed ↦ ?_, fun path code ↦ cleanFailure_of_encoded, fun hzero ↦ ?_⟩
  · obtain hnothing | hcode := hleaves
    · exact ⟨hnothing.stdout_eq, hnothing.sameFiles⟩
    · exact absurd hcode.result_eq hfailed
  · obtain hnothing | hcode := hleaves
    · exact absurd hzero hnothing.result_ne
    · exact hcode.delivered

/-- One input, compiled to standard output, into a new directory, and to a path with a file in the
place of a directory. The last attempt leaves a new directory behind, but no file. -/
theorem runCompile_all_or_nothing_three_outputs :
    let files : FileSystem :=
      ⟨["work"], [(["work", "a.json"], .file (Text.encodeUtf8 "\x7b\"Sym\": \"a\"\x7d".toList))]⟩
    let renderer : Renderer := ⟨80, fun _ ↦ [], fun _ ↦ .ok []⟩
    let world : World := ⟨files, none, ⟨fun _ ↦ none, fun _ _ _ ↦ .error .notStarted⟩, renderer⟩
    let request (output : Option Path) : CompileRequest := ⟨⟨0, ["a.json"]⟩, output, true, none, []⟩
    let effect (output : Option Path) := runCompile world (request output)
    let fresh : Path := ⟨0, ["new", "a.clj"]⟩
    let blocked : Path := ⟨0, ["new", "..", "a.json", "a.clj"]⟩
    ((effect none).result = .ok 0 ∧ (effect none).stdout = "a\n" ∧ (effect none).files = files) ∧
    ((effect (some fresh)).result = .ok 0 ∧
      ∃ code count bytes, CompilesTo world (request (some fresh)) code count ∧
        Text.encode? code.toList = some bytes ∧
        (effect (some fresh)).files.read? fresh = .ok (some bytes)) ∧
    ((effect (some blocked)).result = .ok 1 ∧ (effect (some blocked)).files ≠ files ∧
      (effect (some blocked)).stdout = "" ∧
      SameFilesExcept [] files (effect (some blocked)).files) := by
  intro files renderer world request effect fresh blocked
  have hstdout : (effect none).result = .ok 0 ∧ (effect none).stdout = "a\n" := by decide +kernel
  have hfresh : (effect (some fresh)).result = .ok 0 := by decide +kernel
  have hblocked : (effect (some blocked)).result = .ok 1 := by decide +kernel
  have hleft : (effect (some blocked)).files ≠ files := by decide +kernel
  -- the same code is on standard output in the first run, so it has bytes
  have hcode (code : String) (count : Nat)
      (hcompiles : CompilesTo world (request (some blocked)) code count) :
      Text.encode? code.toList ≠ none := by
    intro hencode
    have hcompiles' : CompilesTo world (request none) code count := hcompiles
    obtain ⟨log, calls, heq⟩ := runCompile_of_compilesTo hcompiles'
    have heffect : effect none = .escaped files log calls (.system .unencodable) :=
      heq.trans (deliver_of_unencodable ⟨code, [], true, count⟩ hencode)
    cases (congrArg Effect.result heffect).symm.trans hstdout.1
  obtain ⟨-, -, -, hnone⟩ := runCompile_all_or_nothing world (request none)
  obtain ⟨-, -, -, hsome⟩ := runCompile_all_or_nothing world (request (some fresh))
  obtain ⟨-, hfailed, hclean, -⟩ := runCompile_all_or_nothing world (request (some blocked))
  refine ⟨⟨hstdout.1, hstdout.2, ?_⟩, ⟨hfresh, ?_⟩, hblocked, hleft, ?_⟩
  · obtain ⟨code, count, bytes, -, -, -, hfiles⟩ := hnone hstdout.1
    exact (hfiles rfl).1
  · obtain ⟨code, count, bytes, hcompiles, hencode, hwritten, -⟩ := hsome hfresh
    exact ⟨code, count, bytes, hcompiles, hencode, (hwritten fresh rfl).2.read?_eq⟩
  · obtain ⟨hempty, hsame⟩ := hfailed fun hzero ↦ by cases hblocked.symm.trans hzero
    exact ⟨hempty, hsame fun path code count _ hcompiles ↦
      hclean path code (hcode code count hcompiles)⟩

end ScriptForms.Command
