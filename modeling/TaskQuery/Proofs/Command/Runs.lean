/-
  TaskQuery — what runs of the program do to the settings.

  * `Run` is one run of the program, `Files.afterRun` are the files afterwards, and `Run.change?`
    tells which setting it changes, if it does;
  * `changeSetting_spec`: what the command that changes a setting does;
    `Machine.run_of_no_assignment`: no other command changes files;
  * `Run.Effect`: what a run does to the settings and to other files;
    `Files.afterRun_effect`: every run does that;
  * `Settings.Holds s key value`: a setting has the value that a text assigns; `Settings.holds_iff`:
    which one that is;
  * `Settings.Follows s changes t`: every setting has the value that was assigned last;
    `Files.afterRuns_spec`: so it is after many runs;
  * `settings_hold_last_changes`: the settings go from run to run.
-/
import TaskQuery.Command.Run
import TaskQuery.Proofs.Settings.Storage

namespace TaskQuery

variable {m : Machine} {i : Invocation} {ctx : Context} {files after : Files} {path : String}
  {s t : Settings} {name value : String} {key : Settings.Key}

/-! ## Commands -/

/-- Whether a command fails because something cannot be written. -/
def CommandFault.isOfWriting : CommandFault → Bool
  | configuration (.storage (.noDirectory ..)) | configuration (.storage (.unwritable ..)) => true
  | _ => false

theorem Settings.save_fault {fault : StorageFault} (h : s.save files path = (after, some fault)) :
    (CommandFault.configuration (.storage fault)).isOfWriting = true := by
  rw [save] at h
  split at h
  · rename_i fault' heq
    cases h
    rw [makeRoom] at heq
    split at heq
    · cases heq
    · obtain ⟨fault, -, rfl⟩ := Option.map_eq_some_iff.1 (Prod.mk.inj heq).2
      rfl
  · split at h
    · cases h
    · cases h
      rfl

theorem Settings.Key.name_of_ofName? (h : ofName? name = some key) : key.name = name := by
  simpa using List.find?_some h

theorem Settings.Key.name_injective {key' : Key} (h : key.name = key'.name) : key = key' := by
  have hkey := ofName?_name key
  rw [h, ofName?_name] at hkey
  exact (Option.some.inj hkey).symm

/-- The command that changes a setting is refused the assignment and leaves the files alone, or
    fails because something cannot be written, or saves the settings with the one
    changed. -/
theorem changeSetting_spec (hload : Settings.load files path = .ok s) :
    let result := changeSetting ctx files path name value
    ((∃ fault, s.assignNamed name value ctx.now = .error fault) ∧ result.1.fault ≠ none ∧
      result.2 = files) ∨
    (∃ fault, result.1.fault = some fault ∧ fault.isOfWriting = true) ∨
    (result.1.fault = none ∧ ∃ key t, Settings.Key.name key = name ∧
      s.assign key value ctx.now = .ok t ∧ t.save files path = (result.2, none)) := by
  intro result
  have hchanged : changedSettings files path name value ctx.now =
      (s.assignNamed name value ctx.now).mapError .assignment := by
    simp [changedSettings, hload, Except.mapError, bind, Except.bind]
  cases hassigned : s.assignNamed name value ctx.now with
  | error fault =>
    have hresult : result = (.fail (.configuration (.assignment fault)), files) := by
      simp only [result, changeSetting, hchanged, hassigned, Except.mapError]
    rw [hresult]
    exact Or.inl ⟨⟨fault, rfl⟩, by simp [Outcome.fail], rfl⟩
  | ok t =>
    obtain ⟨key, hkey, hassign⟩ : ∃ key, Settings.Key.ofName? name = some key ∧
        s.assign key value ctx.now = .ok t := by
      rw [Settings.assignNamed] at hassigned
      split at hassigned
      · exact ⟨_, by assumption, hassigned⟩
      · cases hassigned
    rcases hsave : t.save files path with ⟨after, _ | fault⟩
    · have hresult : result = (settingReport ctx path name value, after) := by
        simp only [result, changeSetting, hchanged, hassigned, Except.mapError, hsave]
      rw [hresult]
      refine Or.inr (Or.inr ⟨?_, key, t, Settings.Key.name_of_ofName? hkey, hassign, hsave⟩)
      unfold settingReport
      split_ifs <;> rfl
    · have hresult : result = (.fail (.configuration (.storage fault)), after) := by
        simp only [result, changeSetting, hchanged, hassigned, Except.mapError, hsave]
      rw [hresult]
      exact Or.inr (Or.inl ⟨_, rfl, Settings.save_fault hsave⟩)

/-- The name and the value that an invocation assigns, if it does. -/
def Invocation.assignment? (i : Invocation) : Option (String × String) :=
  match i.command with
  | .config (.assign name value) => some (name, value)
  | _ => none

namespace Machine

theorem settings_eq (hpath : settingsPath? m.environment = some path)
    (hload : Settings.load m.files path = .ok s) : m.settings = .ok s := by
  simp [settings, settingsPath, hpath, hload, bind, Except.bind]

theorem run_of_assignment (hpath : settingsPath? m.environment = some path)
    (hload : Settings.load m.files path = .ok s) (h : i.assignment? = some (name, value)) :
    m.run i = changeSetting (m.context i s) m.files path name value := by
  have hcommand : i.command = .config (.assign name value) := by
    unfold Invocation.assignment? at h
    split at h
    · rename_i heq
      cases h
      exact heq
    · cases h
  rw [run, settings_eq hpath hload]
  simp [runWith, hcommand, runConfig, settingsPath, hpath]

/-- Only an assignment changes files. -/
theorem run_of_no_assignment (hload : m.settings = .ok s) (h : i.assignment? = none) :
    (m.run i).2 = m.files := by
  rw [run, hload]
  unfold Invocation.assignment? at h
  dsimp only
  unfold runWith
  dsimp only
  split
  all_goals try rfl
  rename_i request hcommand
  rw [runConfig]
  split
  · rfl
  · cases request with
    | overview | path => rfl
    | assign name value => simp [hcommand] at h

end Machine

/-! ## Runs -/

/-- One run of the program. -/
structure Run where
  /-- The command line. -/
  arguments : List String
  /-- The variables of the environment. -/
  environment : Environment
  /-- The instant. -/
  now : Instant
  /-- The time zone. -/
  zone : Zone := .universal
  /-- What is typed line by line, and when; none if there is no terminal. -/
  typed : Option (List (String × Instant)) := none
  /-- The scripts with which shells complete commands. -/
  completion : Shell → String

namespace Run

/-- What a run asks for. -/
def invocation (run : Run) : Except UsageFault Invocation :=
  Invocation.ofArguments (run.environment.lookup "TF_TASKS_FILE") run.arguments

/-- The name and the value that a run is to assign, if it is. -/
def assignment? (run : Run) : Option (String × String) :=
  match run.invocation with
  | .ok i => i.assignment?
  | .error _ => none

/-- The machine that a run finds. -/
def machine (run : Run) (files : Files) : Machine where
  files := files
  environment := run.environment
  now := run.now
  zone := run.zone
  typed := run.typed
  completion := run.completion

/-- What a run prints, and the files afterwards, unless its command line is refused. -/
def result (run : Run) (files : Files) : Except UsageFault (Outcome × Files) :=
  (run.machine files).runArguments run.arguments

/-- Why the command of a run fails, if it does. -/
def fault? (run : Run) (files : Files) : Option CommandFault :=
  match run.result files with
  | .ok (o, _) => o.fault
  | .error _ => none

/-- The name of the setting that a run changes, and its value, if it does: the run is to assign
    it, and does not fail. -/
def change? (run : Run) (files : Files) : Option (String × String) :=
  if run.fault? files = none then run.assignment? else none

/-- A run fails because something cannot be written. -/
def FailsToWrite (run : Run) (files : Files) : Prop :=
  (run.fault? files).any CommandFault.isOfWriting

instance (run : Run) (files : Files) : Decidable (run.FailsToWrite files) :=
  inferInstanceAs (Decidable (_ = true))

theorem result_eq (run : Run) (files : Files) :
    run.result files = run.invocation.map (run.machine files).run :=
  rfl

end Run

namespace Files

/-- The files after a run. -/
def afterRun (files : Files) (run : Run) : Files :=
  match run.result files with
  | .ok (_, after) => after
  | .error _ => files

/-- The files after some runs. -/
def afterRuns (files : Files) (runs : List Run) : Files :=
  runs.foldl afterRun files

/-- The changes of settings in some runs, one after the other. -/
def changes (files : Files) : List Run → List (String × String)
  | [] => []
  | run :: runs => (run.change? files).toList ++ (files.afterRun run).changes runs

/-- In none of some runs something cannot be written. -/
def WritesSucceed (files : Files) : List Run → Prop
  | [] => True
  | run :: runs => ¬ run.FailsToWrite files ∧ (files.afterRun run).WritesSucceed runs

instance decidableWritesSucceed (files : Files) :
    (runs : List Run) → Decidable (files.WritesSucceed runs)
  | [] => .isTrue trivial
  | run :: runs =>
    have := decidableWritesSucceed (files.afterRun run) runs
    inferInstanceAs (Decidable (_ ∧ _))

variable {run : Run}

/-- A run assigns nothing or is refused it, and leaves the files alone, or it saves the settings
    with one changed. -/
theorem afterRun_spec (hpath : settingsPath? run.environment = some path)
    (hload : Settings.load files path = .ok s) (hwrites : ¬ run.FailsToWrite files) :
    (run.change? files = none ∧ files.afterRun run = files ∧
      ∀ name value, run.assignment? = some (name, value) →
        ∃ fault, s.assignNamed name value run.now = .error fault) ∨
    ∃ key value t, run.change? files = some (Settings.Key.name key, value) ∧
      run.assignment? = some (key.name, value) ∧
      s.assign key value run.now = .ok t ∧ t.save files path = (files.afterRun run, none) := by
  have hfails : ∀ fault, run.fault? files = some fault → fault.isOfWriting = false := by
    intro fault hfault
    simpa [Run.FailsToWrite, hfault] using hwrites
  rw [Run.change?]
  cases hi : run.invocation with
  | error fault =>
    have hresult : run.result files = .error fault := by
      rw [Run.result_eq, hi]
      rfl
    simp [afterRun, hresult, Run.assignment?, hi]
  | ok i =>
    have hresult : run.result files = .ok ((run.machine files).run i) := by
      rw [Run.result_eq, hi]
      rfl
    have hassignment : run.assignment? = i.assignment? := by rw [Run.assignment?, hi]
    have hfault : run.fault? files = ((run.machine files).run i).1.fault := by
      rw [Run.fault?, hresult]
    have hafter : files.afterRun run = ((run.machine files).run i).2 := by
      rw [afterRun, hresult]
    rw [hfault] at hfails
    rw [hassignment, hfault, hafter]
    cases hassigns : i.assignment? with
    | none =>
      have hsettings := Machine.settings_eq (m := run.machine files) hpath hload
      exact Or.inl ⟨by simp, Machine.run_of_no_assignment hsettings hassigns, by simp⟩
    | some assignment =>
      obtain ⟨name, value⟩ := assignment
      rw [Machine.run_of_assignment (m := run.machine files) hpath hload hassigns] at hfails ⊢
      have hspec := @changeSetting_spec ((run.machine files).context i s) files path s name value hload
      rcases hspec with ⟨hrefused, hfault, hsame⟩ | ⟨fault, hfault, hwriting⟩ |
        ⟨hfault, key, t, rfl, hassign, hsave⟩
      · refine Or.inl ⟨if_neg hfault, hsame, fun name' value' h => ?_⟩
        cases h
        exact hrefused
      · rw [hfails fault hfault] at hwriting
        cases hwriting
      · exact Or.inr ⟨key, value, t, if_pos hfault, rfl, hassign, hsave⟩

end Files

/-- What a run does to the settings in the file at a path, which are `s` before it and `t`
    after it.  A run that is to assign a setting changes it if the assignment is not refused.
    Unless a run changes a setting all files stay as they are; else one setting gets a value,
    the others keep theirs, and a settings file of the current version is written.  At other
    places nothing but directories is made. -/
structure Run.Effect (run : Run) (files : Files) (path : String) (s t : Settings) : Prop where
  before : Settings.load files path = .ok s
  after : Settings.load (files.afterRun run) path = .ok t
  grows : Files.Grows [files.placeOf path] files (files.afterRun run)
  succeeds : ∀ name value, run.assignment? = some (name, value) →
    (run.change? files = some (name, value) ↔ ∃ t, s.assignNamed name value run.now = .ok t)
  unchanged : run.change? files = none → files.afterRun run = files
  changed : ∀ name value, run.change? files = some (name, value) →
    ∃ key, Settings.Key.name key = name ∧ s.assign key value run.now = .ok t ∧
      (∀ other ≠ key, t.value? other = s.value? other) ∧
      ∃ text root, (files.afterRun run).get? (files.placeOf path) = some (.text text) ∧
        Toml.ofText? text = some root ∧ root.member? "version" = some (.integer Settings.version)

namespace Settings

variable {u : Settings} {changes changes' : List (String × String)}

/-- The value of a key is the one that a text assigns to it, where nothing else is set. -/
def Holds (s : Settings) (key : Key) (value : String) : Prop :=
  ∀ now, ∃ t, ({} : Settings).assign key value now = .ok t ∧ s.value? key = t.value? key

/-- What a setting holds, key by key: the text, or the truth value, format, number or query that
    it stands for. -/
theorem holds_iff : s.Holds key value ↔ match key with
    | .tasksFile => s.tasksFile = some value
    | .color => ∃ b, boolOfText? value = some b ∧ s.color = some b
    | .dateFormat => value ∈ dateFormats ∧ s.dateFormat = some value
    | .limit => ∃ n, Count.ofText? value = some n ∧ s.limit = some n
    | .defaultFilter =>
      (∀ now, rejection? value now = none) ∧ s.defaultFilter = nonBlank? value := by
  constructor
  · intro h
    obtain ⟨t, hassign, hsame⟩ := h ⟨0, 0⟩
    rw [assign_eq_ok_iff] at hassign
    rw [value?_eq_iff] at hsame
    cases key with
    | tasksFile =>
      rw [hassign] at hsame
      exact hsame
    | color | limit =>
      obtain ⟨new, hvalue, rfl⟩ := hassign
      exact ⟨new, hvalue, hsame⟩
    | dateFormat =>
      obtain ⟨hvalue, rfl⟩ := hassign
      exact ⟨hvalue, hsame⟩
    | defaultFilter =>
      obtain ⟨hvalue, rfl⟩ := hassign
      exact ⟨fun now => (rejection?_eq value now _).trans hvalue, hsame⟩
  · intro h now
    simp only [assign_eq_ok_iff, value?_eq_iff]
    cases key with
    | tasksFile => exact ⟨_, rfl, h⟩
    | color | limit =>
      obtain ⟨new, hvalue, hsame⟩ := h
      exact ⟨_, ⟨new, hvalue, rfl⟩, hsame⟩
    | dateFormat => exact ⟨_, ⟨h.1, rfl⟩, h.2⟩
    | defaultFilter => exact ⟨_, ⟨h.1 now, rfl⟩, h.2⟩

theorem Holds.congr (h : s.Holds key value) (hsame : t.value? key = s.value? key) :
    t.Holds key value :=
  fun now => (h now).imp fun _ ht => ⟨ht.1, hsame.trans ht.2⟩

/-- After some changes of the settings `s` every setting has the value in `t` that was assigned
    last, or else the one in `s`. -/
def Follows (s : Settings) (changes : List (String × String)) (t : Settings) : Prop :=
  ∀ key : Key, match changes.reverse.lookup key.name with
    | some value => t.Holds key value
    | none => t.value? key = s.value? key

theorem Follows.refl (s : Settings) : s.Follows [] s :=
  fun _ => rfl

theorem Follows.trans (h : s.Follows changes t) (h' : t.Follows changes' u) :
    s.Follows (changes ++ changes') u := by
  intro key
  have hfirst := h key
  have hsecond := h' key
  rw [List.reverse_append, List.lookup_append]
  cases hlater : changes'.reverse.lookup key.name with
  | some value => simpa [hlater] using hsecond
  | none =>
    rw [hlater] at hsecond
    rw [Option.none_or]
    cases hearlier : changes.reverse.lookup key.name with
    | some value =>
      rw [hearlier] at hfirst
      exact hfirst.congr hsecond
    | none =>
      rw [hearlier] at hfirst
      exact hsecond.trans hfirst

theorem holds_assign {now : Instant} (h : s.assign key value now = .ok t) : t.Holds key value :=
  fun now' => (assign_self h {} now').imp fun _ ht => ⟨ht.1, ht.2.symm⟩

theorem follows_assign {now : Instant} (h : s.assign key value now = .ok t) :
    s.Follows [(key.name, value)] t := by
  intro key'
  by_cases hsame : key' = key
  · subst hsame
    simpa using holds_assign h
  · have hname : (key'.name == key.name) = false := by simpa using mt Key.name_injective hsame
    simpa [List.lookup_cons, hname] using assign_other h hsame

end Settings

theorem Run.Effect.follows {run : Run} (h : run.Effect files path s t) :
    s.Follows (run.change? files).toList t := by
  cases hchange : run.change? files with
  | none =>
    have hafter := h.after
    rw [h.unchanged hchange, h.before] at hafter
    obtain rfl := Except.ok.inj hafter
    exact Settings.Follows.refl s
  | some change =>
    obtain ⟨name, value⟩ := change
    obtain ⟨key, rfl, hassign, -⟩ := h.changed name value hchange
    exact Settings.follows_assign hassign

namespace Files

variable {run : Run} {runs earlier later : List Run}

theorem afterRun_effect (hpath : settingsPath? run.environment = some path)
    (hload : Settings.load files path = .ok s) (hwrites : ¬ run.FailsToWrite files) :
    ∃ t, run.Effect files path s t := by
  rcases afterRun_spec hpath hload hwrites with ⟨hnone, hsame, hrefused⟩ |
    ⟨key, value, t, hsome, hassigns, hassign, hsave⟩
  · refine ⟨s, hload, by rw [hsame, hload], ?_, fun name value hassigns => ?_, fun _ => hsame, ?_⟩
    · rw [hsame]
      exact Grows.refl _ _
    · obtain ⟨fault, hfault⟩ := hrefused name value hassigns
      simp [hnone, hfault]
    · intro name value hsome
      rw [hnone] at hsome
      cases hsome
  · obtain ⟨hgrows, hfile, hloaded⟩ := Settings.save_spec hsave
    refine ⟨t, hload, hloaded, hgrows, fun name value' h => ?_, fun hnone => ?_,
      fun name value' h => ?_⟩
    · rw [hassigns] at h
      cases h
      refine iff_of_true hsome ⟨t, ?_⟩
      rw [Settings.assignNamed, Settings.Key.ofName?_name]
      exact hassign
    · rw [hsome] at hnone
      cases hnone
    · rw [hsome] at h
      cases h
      exact ⟨key, rfl, hassign, fun other hne => Settings.assign_other hassign hne,
        _, _, hfile, t.toml_toText, t.member?_table.1⟩

theorem placeOf_congr (h : after.base = files.base) (path : String) :
    after.placeOf path = files.placeOf path := by
  rw [placeOf, placeOf, h]

theorem writesSucceed_append : files.WritesSucceed (earlier ++ later) ↔
    files.WritesSucceed earlier ∧ (files.afterRuns earlier).WritesSucceed later := by
  induction earlier generalizing files with
  | nil => exact (iff_of_eq (true_and _)).symm
  | cons run earlier ih =>
    rw [List.cons_append, WritesSucceed, WritesSucceed, ih, and_assoc]
    rfl

/-- After some runs other files are as they were, and the settings follow the changes. -/
theorem afterRuns_spec (hpath : ∀ run ∈ runs, settingsPath? run.environment = some path)
    (hload : Settings.load files path = .ok s) (hwrites : files.WritesSucceed runs) :
    Grows [files.placeOf path] files (files.afterRuns runs) ∧
    ∃ t, Settings.load (files.afterRuns runs) path = .ok t ∧ s.Follows (files.changes runs) t := by
  induction runs generalizing files s with
  | nil => exact ⟨Grows.refl _ _, s, hload, Settings.Follows.refl s⟩
  | cons run runs ih =>
    rw [List.forall_mem_cons] at hpath
    obtain ⟨t, heffect⟩ := afterRun_effect hpath.1 hload hwrites.1
    obtain ⟨hgrows, u, hu, hfollows⟩ := ih hpath.2 heffect.after hwrites.2
    rw [placeOf_congr heffect.grows.base] at hgrows
    exact ⟨heffect.grows.trans hgrows, u, hu, heffect.follows.trans hfollows⟩

end Files

/-- **Settings go from run to run.**  Let the settings file be missing or one that is loaded, and
    let no write fail.  Then no run changes any other file, and a run changes the settings
    file only if it is a successful change of a setting: that setting is assigned, and the
    others stay.  So in the end every setting has the value that was assigned last, or
    else the one that it had. -/
theorem settings_hold_last_changes {runs : List Run}
    (hpath : ∀ run ∈ runs, settingsPath? run.environment = some path)
    (hload : Settings.load files path = .ok s) (hwrites : files.WritesSucceed runs) :
    (∀ place ≠ files.placeOf path, ∀ entry ≠ .directory,
      (files.afterRuns runs).get? place = some entry ↔ files.get? place = some entry) ∧
    (∀ earlier run later, runs = earlier ++ run :: later →
      (files.afterRuns earlier).placeOf path = files.placeOf path ∧
      ∃ t u, run.Effect (files.afterRuns earlier) path t u) ∧
    ∃ t, Settings.load (files.afterRuns runs) path = .ok t ∧ s.Follows (files.changes runs) t := by
  obtain ⟨hgrows, hfollows⟩ := Files.afterRuns_spec hpath hload hwrites
  refine ⟨fun place hplace entry hentry => ?_, fun earlier run later hruns => ?_, hfollows⟩
  · exact hgrows.get?_eq_some_iff (by simpa using hplace) hentry
  · subst hruns
    rw [Files.writesSucceed_append] at hwrites
    have hearlier : ∀ run ∈ earlier, settingsPath? run.environment = some path :=
      fun run hrun => hpath run (List.mem_append_left _ hrun)
    obtain ⟨hgrown, t, ht, -⟩ := Files.afterRuns_spec hearlier hload hwrites.1
    have hrun : settingsPath? run.environment = some path :=
      hpath run (List.mem_append_right _ List.mem_cons_self)
    obtain ⟨u, heffect⟩ := Files.afterRun_effect hrun ht hwrites.2.1
    exact ⟨Files.placeOf_congr hgrown.base path, t, u, heffect⟩

/-- A limit is set, a list is shown, a default query is refused, and the limit is set again: in
    the end it is the second one, nothing else is set, and the tasks are as they were. -/
theorem settings_hold_last_changes_limit :
    let environment := [("TF_CONFIG", "/tf/config.toml"), ("TF_TASKS_FILE", "/tasks.json")]
    let run (arguments : List String) : Run :=
      { arguments, environment, now := ⟨0, 0⟩, completion := Shell.name }
    let runs := [run ["config", "set", "list.limit", "7"], run ["list"],
      run ["config", "set", "filter.default", "bogus"], run ["config", "set", "list.limit", "9"]]
    let files : Files := ⟨[(["tasks.json"], .text "[]")], []⟩
    files.changes runs = [("list.limit", "7"), ("list.limit", "9")] ∧
    (files.afterRuns runs).get? ["tasks.json"] = some (.text "[]") ∧
    ∃ t, Settings.load (files.afterRuns runs) "/tf/config.toml" = .ok t ∧
      t.limit = some ⟨9, by decide⟩ ∧ t.defaultFilter = none := by
  intro environment run runs files
  have hpath : ∀ run ∈ runs, settingsPath? run.environment = some "/tf/config.toml" := by
    decide +kernel
  have hload : Settings.load files "/tf/config.toml" = .ok {} := by rfl
  have hwrites : files.WritesSucceed runs := by decide +kernel
  have hchanges : files.changes runs = [("list.limit", "7"), ("list.limit", "9")] := by
    decide +kernel
  have hplace : ["tasks.json"] ≠ files.placeOf "/tf/config.toml" := by decide +kernel
  obtain ⟨hfiles, -, t, ht, hfollows⟩ := settings_hold_last_changes hpath hload hwrites
  rw [hchanges] at hfollows
  refine ⟨hchanges, (hfiles _ hplace _ (by simp)).2 (by rfl), t, ht, ?_,
    Settings.value?_eq_iff.1 (hfollows .defaultFilter)⟩
  obtain ⟨n, hn, hlimit⟩ := Settings.holds_iff.1 (hfollows .limit)
  rw [hlimit, ← hn]
  rfl

end TaskQuery
