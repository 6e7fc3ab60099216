import ScriptForms.Command.Run
import ScriptForms.Proofs.Config.Precedence
import ScriptForms.Proofs.FileSystem.Change
import ScriptForms.Proofs.Program.Stages

/-!
# How a compilation from the command line ends

The command looks at the input, loads the configuration, reads the tree, compiles it and delivers
the code, and it may end after each of these steps. `Exit` lists the ways: with an error that the
command does not handle, with a message to the user, or with the delivery of the code. What the
command does at any of its ends is read off this list.

The errors that the command does not handle are those of `Escapes`, for instance a settings file
that is no TOML. Apart from them the command ends with the exit code 0, or with 1 after an error in
the log.
-/

namespace ScriptForms

/-- The outcome in a report is the one for the result of compiling the tree. -/
theorem CompileReport.outcome_ofTree (tool : Tool) (config : Config) (tree : Json) :
    (ofTree tool config tree).outcome =
      Outcome.ofResult (compile tool (.ofConfig config) tree).result := by
  obtain ⟨result, hends, houtcome⟩ := ends_ofTree tool config tree
  rw [houtcome, hends.compile_eq.1]

/-- Compiling a tree ends with a fault exactly if the formatter has it. -/
theorem compile_eq_fault_iff {tool : Tool} {config : Config} {tree : Json} {fault : ToolFault} :
    (compile tool (.ofConfig config) tree).result = .error (.fault fault) ↔
      FormatterFaults tool (.ofConfig config) tree fault := by
  obtain ⟨result, hends, -⟩ := CompileReport.ends_ofTree tool config tree
  rw [hends.compile_eq.1, hends.eq_fault_iff]

namespace Command

/-- The tree in the input, compiled by the configuration of the request, gives `code`, with `count`
forms. -/
def CompilesTo (world : World) (request : CompileRequest) (code : String) (count : Nat) : Prop :=
  ∃ config tree, world.files.isFile request.input = .ok true ∧
    (request.config world.files).1 = .ok config ∧
    readInput world.files request.input = .ok tree ∧
    (compile world.tool (.ofConfig config) tree).result = .ok (code, count)

/-- Something goes wrong that the command does not handle. -/
inductive Escapes (world : World) (request : CompileRequest) : Prop
  /-- The system refuses to look for the input. -/
  | input {failure : SystemFailure} (hfile : world.files.isFile request.input = .error failure)
  /-- No table of settings can be consulted: the system refuses to look for the settings file or to
  open it, or the nearest one is not UTF-8, is no TOML, or has something else in the place of a
  table. -/
  | settings (hfile : world.files.isFile request.input = .ok true)
      (htable : ¬∃ table,
        ConsultedTable world.files (world.files.resolve request.configRequest.start) table)
  /-- Reading the tree stops at a whole number with too many digits. -/
  | tree {config : Config} {text : String} {offset : Nat}
      (hfile : world.files.isFile request.input = .ok true)
      (hconfig : (request.config world.files).1 = .ok config)
      (htree : readInput world.files request.input =
        .error (.malformed text ⟨.integerTooLong, offset⟩))
  /-- The formatter is found, but there is no run of it on the printed text, or nothing that it
  gives. -/
  | tool {config : Config} {tree : Json} {fault : ToolFault}
      (hfile : world.files.isFile request.input = .ok true)
      (hconfig : (request.config world.files).1 = .ok config)
      (htree : readInput world.files request.input = .ok tree)
      (hfault : FormatterFaults world.tool (.ofConfig config) tree fault)
  /-- There is code, and a null character in the path of the output, which is noticed when its
  directory is created, or else when the file is written. -/
  | path {code : String} {count : Nat} {path : Path}
      (hcompiles : CompilesTo world request code count)
      (houtput : request.output = some path)
      (hnull : path.parent.hasNull = true ∨
        path.hasNull = true ∧ (world.files.makeDirectories path.parent).error? = none)
  /-- There is code with a surrogate in it, and nothing hinders the output of another text. -/
  | text {code : String} {count : Nat} (hcompiles : CompilesTo world request code count)
      (hencode : Text.encode? code.toList = none)
      (houtput : ∀ path, request.output = some path →
        (writeOutput world.files path "").error? = none)

/-- How the command ends. -/
inductive Exit (world : World) (request : CompileRequest) : Effect → Prop
  | escaped {log : List LogRecord} {calls : List ToolCall} {failure : Failure}
      (h : Escapes world request) : Exit world request (.escaped world.files log calls failure)
  | failed (log : List LogRecord) (calls : List ToolCall) (message : String) :
      Exit world request (.failed world.files log calls [message])
  | delivered {log : List LogRecord} {calls : List ToolCall} {code : String} {count : Nat}
      (h : CompilesTo world request code count) :
      Exit world request (deliver world.files log calls request.output ⟨code, [], true, count⟩)

/-! ### The steps -/

section Steps

variable {world : World} {request : CompileRequest} {log : List LogRecord} {config : Config}
  {tree : Json}

/-- A search for the input that the system refuses is not handled. -/
theorem runCompile_of_input_error {failure : SystemFailure}
    (hfile : world.files.isFile request.input = .error failure) :
    runCompile world request =
      .escaped world.files (readOverrides request.overrides).2 [] (.system failure) := by
  rw [runCompile, hfile]

theorem runCompile_of_missing (hfile : world.files.isFile request.input = .ok false) :
    runCompile world request =
      .failed world.files (readOverrides request.overrides).2 []
        ["Input not found: [path]" ++ request.input.toText ++ "[/path]"] := by
  rw [runCompile, hfile]

/-- With a configuration, what is left is to compile the input. -/
theorem runCompile_of_config (hfile : world.files.isFile request.input = .ok true)
    (hconfig : (request.config world.files).1 = .ok config) :
    runCompile world request =
      compileInput world request
        ((readOverrides request.overrides).2 ++ (request.config world.files).2) config := by
  rw [runCompile, hfile]
  dsimp only
  rw [hconfig]

/-- Settings that are refused are reported. -/
theorem runCompile_of_invalid {errors : List SettingError}
    (hfile : world.files.isFile request.input = .ok true)
    (hconfig : (request.config world.files).1 = .error (.invalid errors)) :
    runCompile world request =
      .failed world.files ((readOverrides request.overrides).2 ++ (request.config world.files).2) []
        [Markup.escape ("Invalid configuration: " ++ configErrorHeadline errors)] := by
  rw [runCompile, hfile]
  dsimp only
  rw [hconfig]

/-- Settings that cannot be looked at are not handled. -/
theorem runCompile_of_config_error {cause : ConfigError}
    (hfile : world.files.isFile request.input = .ok true)
    (hconfig : (request.config world.files).1 = .error cause)
    (hcause : ∀ errors, cause ≠ .invalid errors) :
    runCompile world request =
      .escaped world.files
        ((readOverrides request.overrides).2 ++ (request.config world.files).2) []
        (.config cause) := by
  rw [runCompile, hfile]
  dsimp only
  rw [hconfig]
  cases cause with
  | invalid errors => exact absurd rfl (hcause errors)
  | _ => rfl

theorem compileInput_of_unhandled {e : InputError} {failure : Failure}
    (htree : readInput world.files request.input = .error e) (h : e.unhandled? = some failure) :
    compileInput world request log config = .escaped world.files log [] failure := by
  rw [compileInput, htree]
  dsimp only
  rw [h]

/-- Nearly all errors in the input are reported. -/
theorem compileInput_of_handled {e : InputError}
    (htree : readInput world.files request.input = .error e) (h : e.unhandled? = none) :
    compileInput world request log config =
      .failed world.files log [] [Markup.escape (e.message request.input)] := by
  rw [compileInput, htree]
  dsimp only
  rw [h]

/-- A fault of the formatter is not handled. -/
theorem compileInput_of_fault {fault : ToolFault}
    (htree : readInput world.files request.input = .ok tree)
    (hresult : (compile world.tool (.ofConfig config) tree).result = .error (.fault fault)) :
    ∃ log' calls,
      compileInput world request log config = .escaped world.files log' calls (.tool fault) := by
  rw [compileInput, htree]
  dsimp only
  rw [CompileReport.outcome_ofTree, hresult]
  exact ⟨_, _, rfl⟩

/-- An error of the compilation is reported, in one message. -/
theorem compileInput_of_error {cause : CompileError}
    (htree : readInput world.files request.input = .ok tree)
    (hresult : (compile world.tool (.ofConfig config) tree).result = .error (.error cause)) :
    ∃ log' calls message,
      compileInput world request log config = .failed world.files log' calls [message] := by
  rw [compileInput, htree]
  dsimp only
  rw [CompileReport.outcome_ofTree, hresult]
  exact ⟨_, _, _, rfl⟩

/-- The code of a compilation is delivered. -/
theorem compileInput_of_ok {code : String} {count : Nat}
    (htree : readInput world.files request.input = .ok tree)
    (hresult : (compile world.tool (.ofConfig config) tree).result = .ok (code, count)) :
    ∃ log' calls, compileInput world request log config =
      deliver world.files log' calls request.output ⟨code, [], true, count⟩ := by
  rw [compileInput, htree]
  dsimp only
  rw [CompileReport.outcome_ofTree, hresult]
  exact ⟨_, _, rfl⟩

/-- A whole number with too many digits is the only error in a tree that is not handled. -/
theorem exists_of_unhandled? {e : InputError} {failure : Failure}
    (h : e.unhandled? = some failure) :
    ∃ text offset, e = .malformed text ⟨.integerTooLong, offset⟩ := by
  cases e with
  | unreadable cause => cases h
  | undecodable cause => cases h
  | malformed text cause =>
    by_cases hfault : cause.fault = .integerTooLong
    · exact ⟨text, cause.offset, by rw [← hfault]⟩
    · rw [InputError.unhandled?, if_neg hfault] at h
      cases h

/-- With a configuration, the rest of the command ends in one of the ways that are listed. -/
theorem exit_compileInput (log : List LogRecord)
    (hfile : world.files.isFile request.input = .ok true)
    (hconfig : (request.config world.files).1 = .ok config) :
    Exit world request (compileInput world request log config) := by
  cases htree : readInput world.files request.input with
  | error e =>
    cases hunhandled : e.unhandled? with
    | none =>
      rw [compileInput_of_handled htree hunhandled]
      exact .failed _ _ _
    | some failure =>
      rw [compileInput_of_unhandled htree hunhandled]
      obtain ⟨text, offset, rfl⟩ := exists_of_unhandled? hunhandled
      exact .escaped (.tree hfile hconfig htree)
  | ok tree =>
    cases hresult : (compile world.tool (.ofConfig config) tree).result with
    | error raised =>
      cases raised with
      | error cause =>
        obtain ⟨log, calls, message, heq⟩ := compileInput_of_error htree hresult
        rw [heq]
        exact .failed _ _ _
      | fault fault =>
        obtain ⟨log, calls, heq⟩ := compileInput_of_fault htree hresult
        rw [heq]
        exact .escaped (.tool hfile hconfig htree (compile_eq_fault_iff.1 hresult))
    | ok value =>
      obtain ⟨log, calls, heq⟩ := compileInput_of_ok htree hresult
      rw [heq]
      exact .delivered ⟨config, tree, hfile, hconfig, htree, hresult⟩

end Steps

/-- The command ends in one of the ways that are listed. -/
theorem exit_runCompile (world : World) (request : CompileRequest) :
    Exit world request (runCompile world request) := by
  cases hfile : world.files.isFile request.input with
  | error failure =>
    rw [runCompile_of_input_error hfile]
    exact .escaped (.input hfile)
  | ok found =>
    cases found with
    | false =>
      rw [runCompile_of_missing hfile]
      exact .failed _ _ _
    | true =>
      have hnull : request.configRequest.start.hasNull = false :=
        Path.hasNull_parent (FileSystem.hasNull_eq_false_of_isFile hfile)
      cases hconfig : (request.config world.files).1 with
      | error cause =>
        by_cases hcause : ∃ errors, cause = .invalid errors
        · obtain ⟨errors, rfl⟩ := hcause
          rw [runCompile_of_invalid hfile hconfig]
          exact .failed _ _ _
        · rw [runCompile_of_config_error hfile hconfig fun errors heq ↦ hcause ⟨errors, heq⟩]
          refine .escaped (.settings hfile ?_)
          rintro ⟨table, hconsulted⟩
          -- with a table to consult, settings are accepted or refused
          obtain ⟨config, hok⟩ | ⟨errors, hinvalid⟩ := load_eq_ok_or_invalid hnull hconsulted
          · cases hconfig.symm.trans hok
          · cases hconfig.symm.trans hinvalid
            exact hcause ⟨errors, rfl⟩
      | ok config =>
        rw [runCompile_of_config hfile hconfig]
        exact exit_compileInput _ hfile hconfig

/-- Code that is there is delivered. -/
theorem runCompile_of_compilesTo {world : World} {request : CompileRequest} {code : String}
    {count : Nat} (h : CompilesTo world request code count) :
    ∃ log calls, runCompile world request =
      deliver world.files log calls request.output ⟨code, [], true, count⟩ := by
  obtain ⟨config, tree, hfile, hconfig, htree, hresult⟩ := h
  rw [runCompile_of_config hfile hconfig]
  exact compileInput_of_ok htree hresult

/-! ### Delivery to standard output -/

section Delivery

variable {files : FileSystem} {log : List LogRecord} {calls : List ToolCall} {path : Path}
  {code : String}

/-- The line feed that completes a line makes no difference to whether a text can be encoded. -/
theorem encode?_completeLine_eq_none_iff :
    Text.encode? (completeLine code).toList = none ↔ Text.encode? code.toList = none := by
  rw [completeLine]
  split
  · rfl
  · rw [String.toList_append]
    exact Text.encode?_append_lineFeed_eq_none_iff code.toList

/-- Code that has bytes goes to standard output, with the last line complete. -/
theorem deliver_of_encoded (outcome : Outcome) {bytes : List UInt8}
    (h : Text.encode? outcome.code.toList = some bytes) :
    deliver files log calls none outcome =
      { result := .ok 0, stdout := completeLine outcome.code, log := log, printed := [],
        files := files, calls := calls } := by
  have hline : ¬(Text.encode? (completeLine outcome.code).toList).isNone = true := by
    rw [Option.isNone_iff_eq_none, encode?_completeLine_eq_none_iff, h]
    exact Option.some_ne_none bytes
  rw [deliver, if_neg hline]

/-- Code with a surrogate never reaches standard output. -/
theorem deliver_of_unencodable (outcome : Outcome)
    (h : Text.encode? outcome.code.toList = none) :
    deliver files log calls none outcome = .escaped files log calls (.system .unencodable) := by
  have hline : (Text.encode? (completeLine outcome.code).toList).isNone = true := by
    rw [Option.isNone_iff_eq_none, encode?_completeLine_eq_none_iff, h]
  rw [deliver, if_pos hline]

/-! ### Delivery to a file -/

/-- Bytes are written after the directories that they need. -/
theorem writeOutput_of_encoded {bytes : List UInt8} (h : Text.encode? code.toList = some bytes) :
    writeOutput files path code =
      (files.makeDirectories path.parent).andThen (·.write path bytes) := by
  have hwrite (made : FileSystem) : made.writeText path code.toList = made.write path bytes := by
    rw [FileSystem.writeText, h]
  rw [writeOutput, funext hwrite]

/-- A text with a surrogate is noticed where an empty text would have been written. -/
theorem writeOutput_of_unencodable (h : Text.encode? code.toList = none) :
    writeOutput files path code =
      (writeOutput files path "").andThen fun emptied ↦ ⟨emptied, some ⟨.unencodable, path⟩⟩ := by
  have hwrite (made : FileSystem) : made.writeText path code.toList =
      (made.write path []).andThen fun emptied ↦ ⟨emptied, some ⟨.unencodable, path⟩⟩ := by
    rw [FileSystem.writeText, h]
  have hempty : Text.encode? "".toList = some [] := rfl
  rw [writeOutput_of_encoded hempty, FileSystem.Change.andThen_assoc, writeOutput, funext hwrite]

/-- A null character stops the writing of bytes exactly if the directory of the output cannot be
named, or if only the file in it cannot. All else that stops it is reported. -/
theorem unreported_write_iff {bytes : List UInt8} :
    (∃ e, ((files.makeDirectories path.parent).andThen (·.write path bytes)).error? = some e ∧
      e.failure.isReported = false) ↔
    path.parent.hasNull = true ∨
      path.hasNull = true ∧ (files.makeDirectories path.parent).error? = none := by
  constructor
  · rintro ⟨e, herror, hunreported⟩
    cases hmade : (files.makeDirectories path.parent).error? with
    | some cause =>
      rw [FileSystem.Change.andThen_of_some hmade] at herror
      cases hparent : path.parent.hasNull with
      | true => exact .inl rfl
      | false =>
        have hreported := FileSystem.isReported_of_makeDirectories hparent herror
        cases hreported.symm.trans hunreported
    | none =>
      rw [FileSystem.Change.andThen_of_none hmade] at herror
      cases hname : path.hasNull with
      | true => exact .inr ⟨rfl, rfl⟩
      | false =>
        have hreported := FileSystem.isReported_of_write hname herror
        cases hreported.symm.trans hunreported
  · rintro (hnull | ⟨hnull, hmade⟩)
    · have herror : (files.makeDirectories path.parent).error? =
        some ⟨.nullCharacter, path.parent⟩ :=
        FileSystem.error?_makeDirectories_of_hasNull hnull
      rw [FileSystem.Change.andThen_of_some herror]
      exact ⟨_, herror, rfl⟩
    · rw [FileSystem.Change.andThen_of_none hmade]
      exact ⟨_, FileSystem.error?_write_of_hasNull hnull bytes, rfl⟩

/-- What stops the delivery without a report: a null character in the path, or a surrogate in the
text. -/
theorem unreported_writeOutput_iff :
    (∃ e, (writeOutput files path code).error? = some e ∧ e.failure.isReported = false) ↔
    (path.parent.hasNull = true ∨
      path.hasNull = true ∧ (files.makeDirectories path.parent).error? = none) ∨
    Text.encode? code.toList = none ∧ (writeOutput files path "").error? = none := by
  cases hencode : Text.encode? code.toList with
  | some bytes =>
    rw [writeOutput_of_encoded hencode, unreported_write_iff]
    simp
  | none =>
    have hempty : Text.encode? "".toList = some [] := rfl
    rw [writeOutput_of_unencodable hencode, ← unreported_write_iff, ← writeOutput_of_encoded hempty]
    cases herror : (writeOutput files path "").error? with
    | some e =>
      rw [FileSystem.Change.andThen_of_some herror, herror]
      simp
    | none =>
      rw [FileSystem.Change.andThen_of_none herror]
      exact iff_of_true ⟨_, rfl, rfl⟩ (.inr ⟨rfl, rfl⟩)

/-- Code that was written to its file is all that the command leaves behind. -/
theorem deliver_of_written (outcome : Outcome)
    (h : (writeOutput files path outcome.code).error? = none) :
    let effect := deliver files log calls (some path) outcome
    effect.result = .ok 0 ∧ effect.stdout = "" ∧ effect.printed = [] ∧
      effect.files = (writeOutput files path outcome.code).files := by
  rw [deliver]
  dsimp only
  rw [h]
  exact ⟨rfl, rfl, rfl, rfl⟩

/-- An output that cannot be written is an error in the log if the system reports it. -/
theorem deliver_of_unwritten (log : List LogRecord) (calls : List ToolCall) (outcome : Outcome)
    {e : SystemError}
    (h : (writeOutput files path outcome.code).error? = some e) :
    (e.failure.isReported = false ∧ deliver files log calls (some path) outcome =
      .escaped (writeOutput files path outcome.code).files log calls (.system e.failure)) ∨
    e.failure.isReported = true ∧ ∃ message, deliver files log calls (some path) outcome =
      .failed (writeOutput files path outcome.code).files log calls [message] := by
  rw [deliver, h]
  cases hreported : e.failure.isReported with
  | false => exact .inl ⟨rfl, if_neg (by simp [hreported])⟩
  | true => exact .inr ⟨rfl, _, if_pos hreported⟩

end Delivery

/-! ### Errors that are not handled -/

/-- The command ends by itself: with the exit code 0, or with 1 and an error in the log. -/
def Effect.IsHandled (effect : Effect) : Prop :=
  effect.result = .ok 0 ∨
    effect.result = .ok 1 ∧ ∃ record ∈ effect.log, record.level = Level.error

/-- A message to the user is an error in the log. -/
theorem isHandled_failed (files : FileSystem) (log : List LogRecord) (calls : List ToolCall)
    (message : String) : (Effect.failed files log calls [message]).IsHandled :=
  .inr ⟨rfl, .styled .error message, List.mem_append_right _ (List.mem_singleton.2 rfl), rfl⟩

theorem not_isHandled_of_error {effect : Effect} {failure : Failure}
    (h : effect.result = .error failure) : ¬effect.IsHandled := by
  rintro (hzero | ⟨hone, -⟩)
  · cases h.symm.trans hzero
  · cases h.symm.trans hone

/-- A delivery to a file is handled unless it is stopped without a report. -/
theorem isHandled_deliver_file_iff {files : FileSystem} {log : List LogRecord}
    {calls : List ToolCall} {path : Path} (outcome : Outcome) :
    (deliver files log calls (some path) outcome).IsHandled ↔
      ¬∃ e, (writeOutput files path outcome.code).error? = some e ∧
        e.failure.isReported = false := by
  cases herror : (writeOutput files path outcome.code).error? with
  | none => exact iff_of_true (.inl (deliver_of_written outcome herror).1) (by simp)
  | some e =>
    obtain ⟨hunreported, hdeliver⟩ | ⟨hreported, message, hdeliver⟩ :=
      deliver_of_unwritten log calls outcome herror
    · rw [hdeliver]
      exact iff_of_false (not_isHandled_of_error rfl) (not_not.2 ⟨e, rfl, hunreported⟩)
    · rw [hdeliver]
      exact iff_of_true (isHandled_failed _ _ _ _) (by simp [hreported])

/-- A delivery to standard output is handled unless there is a surrogate in the text. -/
theorem isHandled_deliver_stdout_iff {files : FileSystem} {log : List LogRecord}
    {calls : List ToolCall} (outcome : Outcome) :
    (deliver files log calls none outcome).IsHandled ↔
      Text.encode? outcome.code.toList ≠ none := by
  cases hencode : Text.encode? outcome.code.toList with
  | none =>
    rw [deliver_of_unencodable outcome hencode]
    exact iff_of_false (not_isHandled_of_error rfl) (not_not.2 rfl)
  | some bytes =>
    rw [deliver_of_encoded outcome hencode]
    exact iff_of_true (.inl rfl) (Option.some_ne_none bytes)

/-- Where something goes wrong that is not handled, the command does not end by itself. -/
theorem Escapes.not_isHandled {world : World} {request : CompileRequest}
    (h : Escapes world request) : ¬(runCompile world request).IsHandled := by
  cases h with
  | input hfile =>
    rw [runCompile_of_input_error hfile]
    exact not_isHandled_of_error rfl
  | settings hfile htable =>
    obtain ⟨cause, hconfig, hcause⟩ := load_eq_error_of_not_consulted htable
    rw [runCompile_of_config_error hfile hconfig hcause]
    exact not_isHandled_of_error rfl
  | tree hfile hconfig htree =>
    rw [runCompile_of_config hfile hconfig, compileInput_of_unhandled htree rfl]
    exact not_isHandled_of_error rfl
  | tool hfile hconfig htree hfault =>
    obtain ⟨log, calls, heq⟩ := compileInput_of_fault htree (compile_eq_fault_iff.2 hfault)
    rw [runCompile_of_config hfile hconfig, heq]
    exact not_isHandled_of_error rfl
  | path hcompiles houtput hnull =>
    obtain ⟨log, calls, heq⟩ := runCompile_of_compilesTo hcompiles
    rw [heq, houtput, isHandled_deliver_file_iff, not_not]
    exact unreported_writeOutput_iff.2 (.inl hnull)
  | text hcompiles hencode hempty =>
    obtain ⟨log, calls, heq⟩ := runCompile_of_compilesTo hcompiles
    rw [heq]
    cases houtput : request.output with
    | none =>
      rw [isHandled_deliver_stdout_iff, not_not]
      exact hencode
    | some path =>
      rw [isHandled_deliver_file_iff, not_not]
      exact unreported_writeOutput_iff.2 (.inr ⟨hencode, hempty path houtput⟩)

/-- Code is delivered in a way that is handled, unless the path or the text is at fault. -/
theorem isHandled_deliver {world : World} {request : CompileRequest} {log : List LogRecord}
    {calls : List ToolCall} {code : String} {count : Nat} (hnot : ¬Escapes world request)
    (hcompiles : CompilesTo world request code count) :
    (deliver world.files log calls request.output ⟨code, [], true, count⟩).IsHandled := by
  cases houtput : request.output with
  | none =>
    refine (isHandled_deliver_stdout_iff _).2 fun hencode ↦ hnot (.text hcompiles hencode ?_)
    intro path hpath
    cases houtput.symm.trans hpath
  | some path =>
    refine (isHandled_deliver_file_iff _).2 fun hunreported ↦ hnot ?_
    obtain hnull | ⟨hencode, hempty⟩ := unreported_writeOutput_iff.1 hunreported
    · exact .path hcompiles houtput hnull
    · refine .text hcompiles hencode fun other hother ↦ ?_
      cases houtput.symm.trans hother
      exact hempty

/-- The command ends by itself exactly if nothing goes wrong that it does not handle. -/
theorem runCompile_isHandled_iff (world : World) (request : CompileRequest) :
    (runCompile world request).IsHandled ↔ ¬Escapes world request := by
  refine ⟨fun hhandled hescapes ↦ hescapes.not_isHandled hhandled, fun hnot ↦ ?_⟩
  have hexit := exit_runCompile world request
  generalize runCompile world request = effect at hexit ⊢
  cases hexit with
  | escaped h => exact absurd h hnot
  | failed log calls message => exact isHandled_failed _ _ _ _
  | delivered hcompiles => exact isHandled_deliver hnot hcompiles

/-- A settings file with a header that is not closed: the command does not end by itself, although
the input could be compiled. -/
theorem runCompile_escapes_unclosed_header :
    let files : FileSystem := ⟨["work"], [
      (["work", "h.json"], .file (Text.encodeUtf8 "\x7b\"Sym\": \"a\"\x7d".toList)),
      (["work", "pyproject.toml"], .file (Text.encodeUtf8 "[broken\n".toList))]⟩
    let renderer : Renderer := ⟨80, fun _ ↦ [], fun _ ↦ .ok []⟩
    let world : World := ⟨files, none, ⟨fun _ ↦ none, fun _ _ _ ↦ .error .notStarted⟩, renderer⟩
    let request : CompileRequest := ⟨⟨0, ["h.json"]⟩, none, true, none, []⟩
    (runCompile world request).result = .error (.config (.malformed .unclosedHeader)) ∧
      (runCompile world request).log = [] ∧ ¬(runCompile world request).IsHandled := by
  intro files renderer world request
  have hresult : (runCompile world request).result =
      .error (.config (.malformed .unclosedHeader)) := by decide +kernel
  exact ⟨hresult, by decide +kernel, not_isHandled_of_error hresult⟩

end Command

end ScriptForms
