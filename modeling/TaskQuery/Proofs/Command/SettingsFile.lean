/-
  TaskQuery — commands for settings, and what is in the settings file.

  * `Entry.settings path entry` are the settings in a file; `Settings.load_of_entryAt`: they are
    loaded;
  * `Settings.save_over`: settings can be saved where a file is;
  * `Machine.run_of_config`: settings that cannot be read do not stop commands for settings;
    `showSettings_of_fault` and `changeSetting_of_fault`: but these load them again;
  * `settings_commands_succeed_iff`: so if the file has no settings only its path can be shown.
-/
import TaskQuery.Proofs.Command.Runs
import TaskQuery.Proofs.Files.Parent

namespace TaskQuery

variable {m : Machine} {i : Invocation} {request : ConfigRequest} {ctx : Context}
  {files after : Files} {path : String} {entry : Entry} {s t : Settings} {fault : StorageFault}
  {key : Settings.Key} {value : String} {now : Instant}

/-! ## Files with settings -/

/-- The settings in a file at a path, and why there are none, if so. -/
def Entry.settings (path : String) : Entry → Except StorageFault Settings
  | .text content =>
    match Settings.ofText? content with
    | some s => .ok s
    | none => .error (.invalid path)
  | .bytes => .error (.unreadable path .notText)
  | .directory => .error (.unreadable path .isDirectory)

theorem Settings.load_of_entryAt (h : files.entryAt path = .ok entry) :
    load files path = entry.settings path := by
  have hexists : files.pathExists path = true := by
    rw [Files.pathExists, h]
    rfl
  rw [load, if_pos hexists, Files.readText, h]
  cases entry <;> rfl

/-- **Settings can be saved where a file is.** -/
theorem Settings.save_over (h : files.entryAt path = .ok entry) (hfile : entry ≠ .directory)
    (s : Settings) : ∃ after, s.save files path = (after, none) := by
  obtain ⟨directory, name, hleads, hget⟩ := Files.leads_of_entryAt h hfile
  have hplace : files.get? (directory ++ [name]) ≠ some .directory := by
    rw [hget]
    exact fun heq => hfile (Option.some.inj heq)
  obtain ⟨above, habove, hleft⟩ := hleads.entryAt_parentPath
  have hroom : Settings.makeRoom files path = (files, none) := by
    rw [Settings.makeRoom, habove]
    rcases hleft with rfl | hdirectory
    · rfl
    · dsimp only
      rw [Files.makeDirectories_of_entryAt hdirectory]
      rfl
  simp only [Settings.save, hroom, hleads.writeText hplace]
  exact ⟨_, rfl⟩

/-! ## Commands -/

/-- A request is one to show something, or to assign a value that a setting can have. -/
def ConfigRequest.IsValid (now : Instant) : ConfigRequest → Prop
  | .overview | .path => True
  | .assign name value => ∃ key t, Settings.Key.name key = name ∧
      ({} : Settings).assign key value now = .ok t

/-- Settings that cannot be read do not stop commands for settings. -/
theorem Machine.run_of_config (h : i.command = .config request) :
    ∃ s, m.run i = m.runConfig (m.context i s) request := by
  rw [run]
  cases m.settings with
  | ok s => exact ⟨s, by simp only [runWith, h]⟩
  | error fault => exact ⟨{}, by simp only [h, Command.isConfig, if_true, runWith]⟩

theorem showSettingsPath_fault : (showSettingsPath ctx files path).fault = none := by
  rw [showSettingsPath]
  split_ifs <;> rfl

theorem showSettings_of_load (h : Settings.load files path = .ok s) :
    (showSettings ctx files path).fault = none := by
  rw [showSettings, h]
  dsimp only
  split_ifs <;> rfl

theorem showSettings_of_fault (h : Settings.load files path = .error fault) :
    showSettings ctx files path = .fail (.configuration (.storage fault)) := by
  rw [showSettings, h]

theorem settingReport_fault {name : String} :
    (settingReport ctx path name value).fault = none := by
  rw [settingReport]
  split_ifs <;> rfl

/-- Settings are changed in a file with settings. -/
theorem changeSetting_of_load (hload : Settings.load files path = .ok s)
    (hassign : s.assign key value ctx.now = .ok t) (hsave : t.save files path = (after, none)) :
    changeSetting ctx files path key.name value =
      (settingReport ctx path key.name value, after) := by
  have hchanged : changedSettings files path key.name value ctx.now = .ok t := by
    simp [changedSettings, hload, Settings.assignNamed, Settings.Key.ofName?_name, hassign,
      Except.mapError, bind, Except.bind]
  simp only [changeSetting, hchanged, hsave]

theorem changeSetting_of_fault {name : String} (h : Settings.load files path = .error fault) :
    changeSetting ctx files path name value =
      (.fail (.configuration (.storage fault)), files) := by
  have hchanged : changedSettings files path name value ctx.now = .error (.storage fault) := by
    simp [changedSettings, h, Except.mapError, bind, Except.bind]
  simp only [changeSetting, hchanged]

namespace Machine

/-- A valid request succeeds on a file with settings, and what it assigns is kept. -/
theorem runConfig_of_settings (ctx : Context) (hpath : settingsPath? m.environment = some path)
    (hentry : m.files.entryAt path = .ok entry) (hsettings : entry.settings path = .ok s)
    (hvalid : request.IsValid m.now) :
    (m.runConfig ctx request).1.fault = none ∧
      ∀ key value, request = .assign (Settings.Key.name key) value →
        ∃ t, Settings.load (m.runConfig ctx request).2 path = .ok t ∧ t.Holds key value := by
  have hload := (Settings.load_of_entryAt hentry).trans hsettings
  have hfile : entry ≠ .directory := by
    rintro rfl
    cases hsettings
  simp only [runConfig, settingsPath, hpath]
  cases request with
  | overview => exact ⟨showSettings_of_load hload, by simp⟩
  | path => exact ⟨showSettingsPath_fault, by simp⟩
  | assign name value =>
    obtain ⟨key, t, rfl, haccepted⟩ := hvalid
    obtain ⟨u, hassign, -⟩ := Settings.assign_self haccepted s ctx.now
    obtain ⟨after, hsave⟩ := Settings.save_over hentry hfile u
    simp only [changeSetting_of_load hload hassign hsave]
    refine ⟨settingReport_fault, fun key' value' h => ?_⟩
    obtain ⟨hname, rfl⟩ := ConfigRequest.assign.inj h
    obtain rfl := Settings.Key.name_injective hname
    exact ⟨u, (Settings.save_spec hsave).2.2, Settings.holds_assign hassign⟩

/-- Without settings in the file every request but one for its path fails. -/
theorem runConfig_of_fault (hpath : settingsPath? m.environment = some path)
    (hentry : m.files.entryAt path = .ok entry) (hsettings : entry.settings path = .error fault)
    (hrequest : request ≠ .path) : m.runConfig ctx request =
      (.fail (.configuration (.storage fault)), m.files) := by
  have hload := (Settings.load_of_entryAt hentry).trans hsettings
  simp only [runConfig, settingsPath, hpath]
  cases request with
  | overview => simp only [showSettings_of_fault hload]
  | path => exact absurd rfl hrequest
  | assign name value => exact changeSetting_of_fault hload

end Machine

/-- **Valid commands for settings succeed exactly if there are settings in the file.**  Then a value
    that is assigned is loaded from the file afterwards.  If there are none, only the path of the
    file can be shown; the other commands fail because of what is in the file, and leave all files
    alone. -/
theorem settings_commands_succeed_iff (hpath : settingsPath? m.environment = some path)
    (hentry : m.files.entryAt path = .ok entry) (hcommand : i.command = .config request)
    (hvalid : request.IsValid m.now) :
    ((m.run i).1.fault = none ↔ request = .path ∨ ∃ s, entry.settings path = .ok s) ∧
    (∀ key value, request = .assign (Settings.Key.name key) value → (m.run i).1.fault = none →
      ∃ t, Settings.load (m.run i).2 path = .ok t ∧ t.Holds key value) ∧
    ∀ fault, (m.run i).1.fault = some fault → (m.run i).2 = m.files ∧
      ∃ broken, entry.settings path = .error broken ∧
        fault = .configuration (.storage broken) := by
  obtain ⟨s, hrun⟩ := Machine.run_of_config (m := m) hcommand
  rw [hrun]
  cases hsettings : entry.settings path with
  | ok t =>
    obtain ⟨hfault, hholds⟩ :=
      Machine.runConfig_of_settings (m.context i s) hpath hentry hsettings hvalid
    exact ⟨by simp [hfault], fun key value h _ => hholds key value h, by simp [hfault]⟩
  | error broken =>
    by_cases hrequest : request = .path
    · subst hrequest
      have hfault : (m.runConfig (m.context i s) .path).1.fault = none := by
        simp only [Machine.runConfig, Machine.settingsPath, hpath, showSettingsPath_fault]
      exact ⟨by simp [hfault], by simp, by simp [hfault]⟩
    · rw [Machine.runConfig_of_fault hpath hentry hsettings hrequest]
      refine ⟨by simp [Outcome.fail, hrequest], by simp [Outcome.fail], fun fault h => ?_⟩
      exact ⟨rfl, broken, rfl, (Option.some.inj h).symm⟩

/-- A setting is changed in a file in which another one is set. -/
theorem settings_commands_succeed_changed :
    let m : Machine :=
      { files := ⟨[(["config.toml"], .text "[list]\nlimit = 5\n")], []⟩
        environment := [("TF_CONFIG", "/config.toml")], now := ⟨0, 0⟩ }
    let i : Invocation := { command := .config (.assign "output.color" "no") }
    (m.run i).1.fault = none ∧
      ∃ t, Settings.load (m.run i).2 "/config.toml" = .ok t ∧ t.Holds .color "no" := by
  intro m i
  have hfault : (m.run i).1.fault = none := by decide +kernel
  have hentry : m.files.entryAt "/config.toml" = .ok (.text "[list]\nlimit = 5\n") := by
    decide +kernel
  have hvalid : ConfigRequest.IsValid m.now (.assign "output.color" "no") :=
    ⟨.color, { color := some false }, rfl, by decide +kernel⟩
  exact ⟨hfault, (settings_commands_succeed_iff rfl hentry rfl hvalid).2.1 .color "no" rfl hfault⟩

/-- A text that is no settings file keeps the settings from being shown and changed. -/
theorem settings_commands_fail_on_broken_file :
    let m : Machine :=
      { files := ⟨[(["config.toml"], .text "this is = = not toml")], []⟩
        environment := [("TF_CONFIG", "/config.toml")], now := ⟨0, 0⟩ }
    ConfigRequest.IsValid m.now (.assign "output.color" "true") ∧
    ∀ arguments ∈ [["config", "show", "-q"], ["config", "set", "output.color", "true"]],
      (m.runArguments arguments).toOption.map (fun result => result.1.fault) =
        some (some (.configuration (.storage (.invalid "/config.toml")))) := by
  refine ⟨⟨.color, { color := some true }, rfl, by decide +kernel⟩, ?_⟩
  decide +kernel

end TaskQuery
