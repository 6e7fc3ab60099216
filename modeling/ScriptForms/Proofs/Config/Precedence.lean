import ScriptForms.Proofs.Config.SettingsFile

/-!
# Precedence of settings

Each setting is taken from the first of four layers that has it: an explicit value, an override, the
table of the settings file, the default. `Config.DecidedBy` says so for the three fields, each by
its own layers and its own check, and `load_eq_ok_iff` says that a configuration is loaded exactly
if it is decided in this way by the table that counts.

So nothing else can matter: neither another key of the overrides or of the table, nor a settings
file above the nearest one.
-/

namespace ScriptForms

/-! ### Layers -/

/-- The layers of a setting, the strongest first. -/
def settingLayers (explicit : Option Setting) (name : String) (overrides : List (String × Setting))
    (table : Toml.Entries) (default : String) : List (Option Setting) :=
  [explicit, overrides.lookup name, (table.lookup name).map Setting.ofToml, some (.text default)]

/-- `value` is what a check makes of the first layer that is present. -/
def FirstPresent {α : Type} (check : Option Setting → Except SettingError α)
    (layers : List (Option Setting)) (value : α) : Prop :=
  ∃ missing setting weaker, layers = missing ++ some setting :: weaker ∧
    (∀ layer ∈ missing, layer = none) ∧ check (some setting) = .ok value

/-- Each field of a configuration is decided by its own layers. -/
structure Config.DecidedBy (config : Config) (explicit : Settings)
    (overrides : List (String × Setting)) (table : Toml.Entries) : Prop where
  formatter : FirstPresent checkFormatter
    (settingLayers explicit.formatter "formatter" overrides table default.formatter.name)
    config.formatter
  style : FirstPresent checkStyle
    (settingLayers explicit.style "style" overrides table default.style) config.style
  command : FirstPresent checkCommand
    (settingLayers explicit.command "zprint_command" overrides table default.command) config.command

section Layers

variable {α : Type} {check : Option Setting → Except SettingError α} {value : α}

/-- The first layer with a setting is the one that a search finds. -/
theorem firstPresent_iff {layers : List (Option Setting)} :
    FirstPresent check layers value ↔
      ∃ setting, layers.findSome? id = some setting ∧ check (some setting) = .ok value := by
  simp only [FirstPresent, List.findSome?_eq_some_iff, id]
  constructor
  · rintro ⟨missing, setting, weaker, hlayers, hmissing, hvalue⟩
    exact ⟨setting, ⟨missing, some setting, weaker, hlayers, rfl, hmissing⟩, hvalue⟩
  · rintro ⟨setting, ⟨missing, layer, weaker, hlayers, rfl, hmissing⟩, hvalue⟩
    exact ⟨missing, setting, weaker, hlayers, hmissing, hvalue⟩

/-- The layers are asked in their order, and the default is always there. -/
theorem findSome?_settingLayers (explicit : Option Setting) (name : String)
    (overrides : List (String × Setting)) (table : Toml.Entries) (default : String) :
    (settingLayers explicit name overrides table default).findSome? id =
      some ((explicit.or ((overrides.lookup name).or ((table.lookup name).map Setting.ofToml))).getD
        (.text default)) := by
  rw [settingLayers]
  cases explicit <;> cases overrides.lookup name <;> cases table.lookup name <;> rfl

/-- The layer of the default may be left out if a check takes a missing setting for the default. -/
theorem firstPresent_settingLayers_iff {explicit : Option Setting} {name : String}
    {overrides : List (String × Setting)} {table : Toml.Entries} {default : String}
    (hdefault : check (some (.text default)) = check none) :
    FirstPresent check (settingLayers explicit name overrides table default) value ↔
      check (explicit.or ((overrides.lookup name).or ((table.lookup name).map Setting.ofToml))) =
        .ok value := by
  have hcheck (chosen : Option Setting) : check (some (chosen.getD (.text default))) =
      check chosen := by
    cases chosen with
    | none => exact hdefault
    | some setting => rfl
  rw [firstPresent_iff, findSome?_settingLayers, ← hcheck]
  simp

end Layers

/-! ### Checks -/

/-- A text that is a style name already is kept. -/
theorem checkStyle_default : checkStyle (some (.text Config.default.style)) = checkStyle none := by
  have hname : styleName Config.default.style = Config.default.style.toList := by decide
  show (if styleName Config.default.style = [] then Except.error SettingError.emptyStyle
    else .ok (String.ofList (styleName Config.default.style))) = .ok Config.default.style
  rw [hname, String.ofList_toList]
  rfl

/-- Settings pass the check exactly if each field passes its own. -/
theorem Settings.check_eq_ok_iff {settings : Settings} {config : Config} :
    settings.check = .ok config ↔ checkFormatter settings.formatter = .ok config.formatter ∧
      checkStyle settings.style = .ok config.style ∧
        checkCommand settings.command = .ok config.command := by
  rw [check]
  constructor
  · intro h
    split at h
    · next hformatter hstyle hcommand =>
      cases h
      exact ⟨hformatter, hstyle, hcommand⟩
    · cases h
  · rintro ⟨hformatter, hstyle, hcommand⟩
    rw [hformatter, hstyle, hcommand]

theorem lookup_map_ofToml (table : Toml.Entries) (name : String) :
    (table.map fun entry ↦ (entry.1, Setting.ofToml entry.2)).lookup name =
      (table.lookup name).map Setting.ofToml := by
  induction table with
  | nil => rfl
  | cons entry rest ih =>
    rw [List.map_cons, List.lookup_cons, List.lookup_cons, ih]
    cases name == entry.1 <;> rfl

/-- The settings of all sources pass the check exactly if the layers of each field decide it. -/
theorem check_orElse_eq_ok_iff {explicit : Settings} {overrides : List (String × Setting)}
    {table : Toml.Entries} {config : Config} :
    (explicit.orElse ((Settings.ofEntries overrides).orElse (.ofTable table))).check = .ok config ↔
      config.DecidedBy explicit overrides table := by
  rw [Settings.check_eq_ok_iff]
  simp only [Settings.orElse, Settings.ofEntries, Settings.ofTable, lookup_map_ofToml]
  constructor
  · rintro ⟨hformatter, hstyle, hcommand⟩
    exact ⟨(firstPresent_settingLayers_iff rfl).2 hformatter,
      (firstPresent_settingLayers_iff checkStyle_default).2 hstyle,
      (firstPresent_settingLayers_iff rfl).2 hcommand⟩
  · rintro ⟨hformatter, hstyle, hcommand⟩
    exact ⟨(firstPresent_settingLayers_iff rfl).1 hformatter,
      (firstPresent_settingLayers_iff checkStyle_default).1 hstyle,
      (firstPresent_settingLayers_iff rfl).1 hcommand⟩

/-! ### Loading -/

/-- Loading takes the settings of the file first, and then lays the others over them. -/
theorem fst_load (fs : FileSystem) (request : ConfigRequest) :
    (Config.load fs request).1 = (fileSettings fs request.start).1 >>= fun fromFile ↦
      let given := (Settings.ofEntries request.overrides).orElse fromFile
      (request.explicit.orElse given).check.mapError ConfigError.invalid :=
  rfl

/-- A configuration is loaded exactly if there is a table that counts and the layers with this table
decide each field of the configuration. -/
theorem load_eq_ok_iff {fs : FileSystem} {request : ConfigRequest} {config : Config} :
    (Config.load fs request).1 = .ok config ↔ request.start.hasNull = false ∧
      ∃ table, ConsultedTable fs (fs.resolve request.start) table ∧
        config.DecidedBy request.explicit request.overrides table := by
  rw [fst_load]
  constructor
  · intro h
    obtain ⟨settings, hsettings, hcheck⟩ := exists_of_bind_eq_ok h
    obtain ⟨hnull, table, hconsulted, rfl⟩ := fileSettings_eq_ok_iff.1 hsettings
    exact ⟨hnull, table, hconsulted, check_orElse_eq_ok_iff.1 (mapError_eq_ok_iff.1 hcheck)⟩
  · rintro ⟨hnull, table, hconsulted, hdecided⟩
    rw [fileSettings_eq_ok_iff.2 ⟨hnull, table, hconsulted, rfl⟩]
    exact mapError_eq_ok_iff.2 (check_orElse_eq_ok_iff.2 hdecided)

/-- With a table that counts, the only thing that can go wrong is that a setting is refused. -/
theorem load_eq_ok_or_invalid {fs : FileSystem} {request : ConfigRequest} {table : Toml.Entries}
    (hnull : request.start.hasNull = false)
    (hconsulted : ConsultedTable fs (fs.resolve request.start) table) :
    (∃ config, (Config.load fs request).1 = .ok config) ∨
      ∃ errors, (Config.load fs request).1 = .error (.invalid errors) := by
  rw [fst_load, fileSettings_eq_ok_iff.2 ⟨hnull, table, hconsulted, rfl⟩]
  show (∃ config, Except.mapError ConfigError.invalid _ = .ok config) ∨
    ∃ errors, Except.mapError ConfigError.invalid _ = .error (.invalid errors)
  cases (request.explicit.orElse
    ((Settings.ofEntries request.overrides).orElse (.ofTable table))).check with
  | ok config => exact .inl ⟨config, rfl⟩
  | error errors => exact .inr ⟨errors, rfl⟩

/-- Without one, no setting is even looked at. -/
theorem load_eq_error_of_not_consulted {fs : FileSystem} {request : ConfigRequest}
    (hnone : ¬∃ table, ConsultedTable fs (fs.resolve request.start) table) :
    ∃ cause, (Config.load fs request).1 = .error cause ∧ ∀ errors, cause ≠ .invalid errors := by
  rw [fst_load]
  cases hsettings : (fileSettings fs request.start).1 with
  | ok settings =>
    obtain ⟨-, table, hconsulted, -⟩ := fileSettings_eq_ok_iff.1 hsettings
    exact absurd ⟨table, hconsulted⟩ hnone
  | error cause =>
    refine ⟨cause, rfl, fun errors heq ↦ ?_⟩
    rw [heq] at hsettings
    exact fileSettings_ne_invalid hsettings

/-- The names of the three settings. -/
def settingNames : List String :=
  ["formatter", "style", "zprint_command"]

/-- Two lists of entries have the same under the names of the settings. -/
def SameSettings {β : Type} (entries entries' : List (String × β)) : Prop :=
  ∀ name ∈ settingNames, entries'.lookup name = entries.lookup name

/-- Only the entries under the names of settings matter to a decision. -/
theorem Config.DecidedBy.of_sameSettings {config : Config} {explicit : Settings}
    {overrides overrides' : List (String × Setting)} {table table' : Toml.Entries}
    (h : config.DecidedBy explicit overrides table) (hoverrides : SameSettings overrides overrides')
    (htable : SameSettings table table') : config.DecidedBy explicit overrides' table' := by
  have hlayers (layer : Option Setting) (name default : String) (hname : name ∈ settingNames) :
      settingLayers layer name overrides' table' default =
        settingLayers layer name overrides table default := by
    rw [settingLayers, settingLayers, hoverrides name hname, htable name hname]
  refine ⟨?_, ?_, ?_⟩
  · rw [hlayers _ _ _ (by simp [settingNames])]
    exact h.formatter
  · rw [hlayers _ _ _ (by simp [settingNames])]
    exact h.style
  · rw [hlayers _ _ _ (by simp [settingNames])]
    exact h.command

/-- **Precedence.** In a configuration that is loaded, each field is decided by its own layers: the
explicit value, the override, the entry in the table of the nearest settings file, the default.
Other keys of the overrides and of the table do not matter, and neither do the settings files above
the nearest one. -/
theorem load_takes_first_present {fs : FileSystem} {request : ConfigRequest} {config : Config}
    (h : (Config.load fs request).1 = .ok config) :
    ∃ table, ConsultedTable fs (fs.resolve request.start) table ∧
      config.DecidedBy request.explicit request.overrides table ∧
      (∀ fs' overrides' table', ConsultedTable fs' (fs'.resolve request.start) table' →
        SameSettings request.overrides overrides' → SameSettings table table' →
          (Config.load fs' { request with overrides := overrides' }).1 = .ok config) ∧
      ∀ directory bytes fs', NearestSettings fs (fs.resolve request.start) directory bytes →
        DiffersAbove directory fs fs' → (Config.load fs' request).1 = .ok config := by
  obtain ⟨hnull, table, hconsulted, hdecided⟩ := load_eq_ok_iff.1 h
  refine ⟨table, hconsulted, hdecided, ?_, ?_⟩
  · intro fs' overrides' table' hconsulted' hoverrides htable
    exact load_eq_ok_iff.2
      ⟨hnull, table', hconsulted', hdecided.of_sameSettings hoverrides htable⟩
  · intro directory bytes fs' hnearest hdiffers
    exact load_eq_ok_iff.2 ⟨hnull, table, hdiffers.consultedTable hnearest hconsulted, hdecided⟩

/-- One field from each of the three upper layers. The settings file of the document's directory
lacks a style, and the one further up, which has another command, is not looked at. -/
theorem load_takes_first_present_three_layers :
    let fs : FileSystem := ⟨["work"], [
      (["work", "pyproject.toml"],
        .file (Text.encodeUtf8 "tool.ysclj.zprint_command = 'far'".toList)),
      (["work", "app", "pyproject.toml"],
        .file (Text.encodeUtf8
          "[tool.ysclj]\nformatter = 'zprint'\nzprint_command = 'near'".toList))]⟩
    let request : ConfigRequest := ⟨⟨some (.text "none"), none, none⟩,
      [("formatter", .flag true), ("style", .text ":Justified"), ("width", .text "80")],
      ⟨0, ["app", "src"]⟩⟩
    let config : Config := ⟨.none, "justified", "near"⟩
    (Config.load fs request).1 = .ok config ∧
      ∃ table, ConsultedTable fs ["work", "app", "src"] table ∧
        config.DecidedBy request.explicit request.overrides table ∧
        (Config.load fs { request with overrides := [("style", .text ":Justified"),
          ("formatter", .flag true)] }).1 = .ok config := by
  intro fs request config
  have hload : (Config.load fs request).1 = .ok config := by decide +kernel
  obtain ⟨table, hconsulted, hdecided, hkeys, -⟩ := load_takes_first_present hload
  refine ⟨hload, table, hconsulted, hdecided, hkeys fs _ table hconsulted ?_ fun name _ ↦ rfl⟩
  intro name hname
  simp only [settingNames, List.mem_cons, List.not_mem_nil, or_false] at hname
  obtain rfl | rfl | rfl := hname <;> rfl

end ScriptForms
