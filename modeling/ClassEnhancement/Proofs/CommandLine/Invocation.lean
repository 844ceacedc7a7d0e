import ClassEnhancement.CommandLine.Run
import ClassEnhancement.Proofs.Batch.Bystanders
import ClassEnhancement.Proofs.Service.Events
import ClassEnhancement.Proofs.Settings.Loading

/-!
# Invocations of the command line

Every invocation opens the project anew, so what it does follows from the files alone: the settings
say whether the enhancement is on, a switch is one save, and an enhancement that is on or forced is
one batch.
-/

namespace ClassEnhancement
namespace CommandLine

variable {programs : Programs} {tree : FileTree} {target : Target} {config : ProjectConfig}
  {stored : Option EnhancementState}

/-- The settings file of a project. -/
def settingsOf (target : Target) (config : ProjectConfig) : SettingsStore :=
  ⟨config.settingsFile target.root⟩

/-! ## Opening -/

section Opening

variable (programs : Programs) (command : TransformCommand) (target : Target)
  (config : ProjectConfig) (state : EnhancementState)

/-- The service of a project. -/
def serviceOf : Service Unit :=
  ServiceSession.added (Workspace.empty ()) target.root config
    (TransformCommand.factory programs command) (settingsOf target config)

/-- The workspace in which a project was opened in a state. -/
def deskOf : Desk :=
  ((Workspace.empty ()).addService target.root config (TransformCommand.factory programs command)
    (settingsOf target config) state).2

theorem services_deskOf :
    (deskOf programs command target config state).services[0]? =
      some (serviceOf programs command target config) :=
  ServiceSession.services_addService _ _ _ _ _ _

theorem isEnabled_deskOf :
    (deskOf programs command target config state).isEnabled
      (serviceOf programs command target config) = state.enabled :=
  ServiceSession.isEnabled_addService _ _ _ _ _ _

theorem isSound_deskOf : (deskOf programs command target config state).IsSound :=
  (Workspace.isSound_empty ()).opened _ _ _ _ _

variable {target config}

/-- A project that is found is opened when its settings are loaded. -/
theorem openProject_eq (found : loadConfig tree target = .ok config)
    (loaded : (settingsOf target config).load tree = .ok stored) :
    openProject programs command tree target =
      .ok ⟨deskOf programs command target config (stored.getD ⟨false⟩), 0,
        serviceOf programs command target config⟩ := by
  have opens := ServiceSession.openWith_eq loaded (Workspace.empty ())
    (TransformCommand.factory programs command)
  have listed := services_deskOf programs command target config (stored.getD ⟨false⟩)
  simp only [openProject, found, opens]
  split
  · next service there =>
      obtain rfl := Option.some.inj (there.symm.trans listed)
      rfl
  · next missing => cases missing.symm.trans listed

theorem openProject_failed (found : loadConfig tree target = .ok config) {error : SettingsError}
    (failed : (settingsOf target config).load tree = .error error) :
    openProject programs command tree target =
      .error s!"opening project {target.root.text}" := by
  have refused : (Workspace.empty ()).openWith tree target.root config
      (TransformCommand.factory programs command) = .error (.settings error) := by
    unfold Workspace.openWith
    dsimp only
    rw [← settingsOf, failed]
  simp only [openProject, found, refused]

end Opening

/-! ## Telling the switch -/

theorem status_eq (found : loadConfig tree target = .ok config)
    (loaded : (settingsOf target config).load tree = .ok stored) :
    status programs tree target =
      .success (line (if (settingsOf target config).isOn tree then "enabled" else "disabled")) := by
  have on := isEnabled_deskOf programs ⟨[]⟩ target config (stored.getD ⟨false⟩)
  rw [← SettingsStore.isOn_of_load loaded] at on
  simp only [status, openProject_eq programs ⟨[]⟩ found loaded, on]

theorem status_failed (found : loadConfig tree target = .ok config) {error : SettingsError}
    (failed : (settingsOf target config).load tree = .error error) :
    status programs tree target = .failure s!"opening project {target.root.text}" := by
  simp only [status, openProject_failed programs ⟨[]⟩ found failed]

/-- The answer is that the enhancement is on when the settings say so, and only then. -/
theorem output_status_iff (found : loadConfig tree target = .ok config) :
    (status programs tree target).output = line "enabled" ↔
      (settingsOf target config).isOn tree = true := by
  cases loaded : (settingsOf target config).load tree with
  | ok stored =>
      rw [status_eq found loaded]
      cases (settingsOf target config).isOn tree with
      | true => simp [Answer.success]
      | false => simp [Answer.success, line]
  | error error =>
      rw [status_failed found loaded, SettingsStore.isOn, loaded]
      simp [Answer.failure, line]

/-! ## Switching -/

variable (programs tree target config) in
theorem setEnabled_deskOf (state : EnhancementState) (on : Bool) :
    ((deskOf programs ⟨[]⟩ target config state).setEnabled tree
        (serviceOf programs ⟨[]⟩ target config) on).2 =
      match (settingsOf target config).save tree ⟨on⟩ with
      | (after, .ok _) => (after, .ok ())
      | (after, .error error) => (after, .error (.settings error)) := by
  have inside : (serviceOf programs ⟨[]⟩ target config).component <
      (deskOf programs ⟨[]⟩ target config state).hub.components.length := by
    rw [deskOf, ServiceSession.addService_eq, Hub.length_components_switch]
    exact Nat.one_pos
  have switched := Hub.isEnabled_switch_self inside on
  simp only [Workspace.setEnabled, Workspace.save, Workspace.isEnabled, switched]
  rfl

/-- A switch of a project that is open is one save. -/
theorem switch_eq (found : loadConfig tree target = .ok config)
    (loaded : (settingsOf target config).load tree = .ok stored) (on : Bool) :
    switch programs tree target on =
      match (settingsOf target config).save tree ⟨on⟩ with
      | (after, .ok _) =>
        let word := if on then "enabled" else "disabled"
        (after, .success (line s!"enhancement {word} for {target.root.text}"))
      | (after, .error error) => (after, .failure (ServiceError.settings error).message) := by
  have saves := setEnabled_deskOf programs tree target config (stored.getD ⟨false⟩) on
  simp only [switch, openProject_eq programs ⟨[]⟩ found loaded]
  generalize (deskOf programs ⟨[]⟩ target config (stored.getD ⟨false⟩)).setEnabled tree
    (serviceOf programs ⟨[]⟩ target config) on = switched at saves
  obtain ⟨workspace, after, outcome⟩ := switched
  generalize (settingsOf target config).save tree ⟨on⟩ = saved at saves ⊢
  obtain ⟨written, outcome⟩ := saved
  cases outcome with
  | ok => cases saves; rfl
  | error error => cases saves; rfl

theorem switch_failed (found : loadConfig tree target = .ok config) {error : SettingsError}
    (failed : (settingsOf target config).load tree = .error error) (on : Bool) :
    switch programs tree target on =
      (tree, .failure s!"opening project {target.root.text}") := by
  simp only [switch, openProject_failed programs ⟨[]⟩ found failed]

/-! ## Enhancing -/

/-- The batch over compiled classes of a project. -/
def batchOf (programs : Programs) (command : TransformCommand) (config : ProjectConfig)
    (project : Project) (compiled : CompiledSet) : Batch Unit where
  context := ⟨project, .plain⟩
  classes := compiled
  factory := TransformCommand.factory programs command
  config := config.enhance

theorem buildProject_serviceOf (command : TransformCommand) :
    (serviceOf programs command target config).buildProject tree =
      match config.buildProject tree target.root with
      | .ok project => .ok project
      | .error error => .error (.config error) := rfl

/-- Asking for a batch, or the end of a compilation, in the workspace of the project. -/
def ranOn (force : Bool) (compilation : Compilation) (running : Workspace.Running Unit) :
    Workspace.Running Unit × Option BatchReport :=
  if force then Workspace.enhance compilation 0 running
  else Workspace.compilationFinished compilation 0 running

variable (programs target config) in
/-- The only service runs one batch if it is forced to or on, and nothing otherwise. -/
theorem ranOn_deskOf (command : TransformCommand) (state : EnhancementState) (force : Bool)
    (compilation : Compilation) (build : BuildState) :
    let ran := ranOn force compilation (deskOf programs command target config state, build)
    let result := ((serviceOf programs command target config).listener.batch compilation.context
      compilation.classes).run build ()
    (ran.1.2, ran.2) =
      if force || state.enabled then (result.build, some result.report) else (build, none) := by
  have listed := services_deskOf programs command target config state
  have on := isEnabled_deskOf programs command target config state
  cases force with
  | true =>
      have forced := Workspace.enhance_eq compilation
        (show (deskOf programs command target config state, build).1.services[0]? = _ from listed)
      simp only [ranOn, if_true, Bool.true_or, forced]
  | false =>
      have finishes := Workspace.finishes_of_serves
        (show (deskOf programs command target config state, build).1.hub.Serves 0 _ _ from
          (isSound_deskOf programs command target config state).serves 0 _ listed)
        listed Workspace.asRegistered compilation
      simp only [ranOn, Workspace.compilationFinished_eq, Bool.false_or]
      rw [if_neg Bool.false_ne_true]
      cases enabled : state.enabled with
      | true =>
          obtain ⟨-, deeds, finished⟩ := finishes.enabled (on.trans enabled)
          rw [finished]
          rfl
      | false =>
          obtain ⟨-, deeds, finished⟩ := finishes.disabled (on.trans enabled)
          rw [finished]
          rfl

/-- An enhancement that is on or forced is one batch, and any other changes nothing. -/
theorem enhance_eq (found : loadConfig tree target = .ok config)
    (loaded : (settingsOf target config).load tree = .ok stored) {classes : List FilePath}
    {compiled : CompiledSet} (read : CompiledSet.ofFiles tree classes = .ok compiled)
    {project : Project} (built : config.buildProject tree target.root = .ok project)
    (transformer : Option String) (force : Bool) :
    enhance programs tree target transformer force classes =
      if force || (settingsOf target config).isOn tree then
        let result := (batchOf programs (commandOf transformer) config project compiled).run
          (.initial tree) ()
        (result.build.tree,
          enhanceAnswer target.root result.build.messages (some result.report))
      else (tree, enhanceAnswer target.root [] none) := by
  have ran_eq := ranOn_deskOf programs target config (commandOf transformer)
    (stored.getD ⟨false⟩) force ⟨⟨project, .plain⟩, compiled⟩ (.initial tree)
  rw [← SettingsStore.isOn_of_load loaded] at ran_eq
  simp only [enhance, openProject_eq programs (commandOf transformer) found loaded, read,
    buildProject_serviceOf, built]
  rw [← ranOn]
  generalize ranOn force _ _ = ran at ran_eq ⊢
  obtain ⟨⟨workspace, build⟩, report⟩ := ran
  split at ran_eq
  · next runs =>
      obtain ⟨rfl, rfl⟩ := Prod.mk.inj ran_eq
      rw [if_pos runs]
      rfl
  · next idle =>
      obtain ⟨rfl, rfl⟩ := Prod.mk.inj ran_eq
      rw [if_neg idle]
      rfl

theorem enhance_failed (found : loadConfig tree target = .ok config) {error : SettingsError}
    (failed : (settingsOf target config).load tree = .error error) (transformer : Option String)
    (force : Bool) (classes : List FilePath) :
    enhance programs tree target transformer force classes =
      (tree, .failure s!"opening project {target.root.text}") := by
  simp only [enhance, openProject_failed programs (commandOf transformer) found failed]

/-- However an enhancement ends, either it changed no file, or it ran a batch: it was forced, or the
settings say that the enhancement is on. -/
theorem enhance_cases (found : loadConfig tree target = .ok config) (transformer : Option String)
    (force : Bool) (classes : List FilePath) :
    (enhance programs tree target transformer force classes).1 = tree ∨
      ∃ stored compiled project, (settingsOf target config).load tree = .ok stored ∧
        CompiledSet.ofFiles tree classes = .ok compiled ∧
        (force || (settingsOf target config).isOn tree) = true ∧
        (enhance programs tree target transformer force classes).1 =
          ((batchOf programs (commandOf transformer) config project compiled).run
            (.initial tree) ()).build.tree := by
  cases loaded : (settingsOf target config).load tree with
  | error error => exact .inl (by rw [enhance_failed found loaded])
  | ok stored =>
      have opens := openProject_eq programs (commandOf transformer) found loaded
      cases read : CompiledSet.ofFiles tree classes with
      | error error => exact .inl (by simp only [enhance, opens, read])
      | ok compiled =>
          cases built : config.buildProject tree target.root with
          | error error =>
              exact .inl (by simp only [enhance, opens, read, buildProject_serviceOf, built])
          | ok project =>
              rw [enhance_eq found loaded read built]
              split
              · next runs => exact .inr ⟨stored, compiled, project, rfl, rfl, runs, rfl⟩
              · exact .inl rfl

/-- An enhancement that is neither forced nor on changes no file. -/
theorem enhance_off (found : loadConfig tree target = .ok config)
    (off : (settingsOf target config).isOn tree = false) (transformer : Option String)
    (classes : List FilePath) :
    (enhance programs tree target transformer false classes).1 = tree := by
  rcases enhance_cases found transformer false classes with same | ⟨_, _, _, -, -, runs, -⟩
  · exact same
  · rw [off] at runs
    cases runs

/-- A batch with a command that changes no file itself keeps every text. -/
theorem keepsTexts_batchOf (config : ProjectConfig) (project : Project)
    (grounded : tree.IsGrounded) {command : TransformCommand}
    (quiet : command.ChangesNothing programs) {classes : List FilePath} {compiled : CompiledSet}
    (read : CompiledSet.ofFiles tree classes = .ok compiled) :
    let result := (batchOf programs command config project compiled).run (.initial tree) ()
    tree.KeepsTexts result.build.tree := by
  have plain : (batchOf programs command config project compiled).context.layer = .plain := rfl
  have leaves : (batchOf programs command config project compiled).factory.LeavesFiles :=
    TransformCommand.leavesFiles_factory quiet
  have classes_eq : (batchOf programs command config project compiled).classes = compiled := rfl
  generalize batchOf programs command config project compiled = batch at plain leaves classes_eq ⊢
  subst classes_eq
  have files : (BuildState.initial tree).tree = tree := rfl
  generalize BuildState.initial tree = build at files ⊢
  subst files
  exact Batch.keepsTexts_of_run plain leaves grounded read ()

/-- An enhancement with a command that changes no file itself keeps every text. -/
theorem keepsTexts_enhance (grounded : tree.IsGrounded)
    (found : loadConfig tree target = .ok config) {transformer : Option String}
    (quiet : (commandOf transformer).ChangesNothing programs) (force : Bool)
    (classes : List FilePath) :
    tree.KeepsTexts (enhance programs tree target transformer force classes).1 := by
  rcases enhance_cases found transformer force classes with same | ⟨_, _, project, -, read, -, ran⟩
  · rw [same]
    exact .refl tree
  · rw [ran]
    exact keepsTexts_batchOf config project grounded quiet read

/-- Settings that are loaded are a text, if they are there. -/
theorem holdsText_of_load {store : SettingsStore} (loaded : store.load tree = .ok stored) :
    tree.HoldsText store.path := by
  refine FileTree.holdsText_of_readText fun no_text => ?_
  simp [SettingsStore.load, SettingsStore.readDocument, no_text] at loaded

/-- An enhancement does not touch the settings: it runs a batch only if they are loaded. -/
theorem read_settings_enhance (grounded : tree.IsGrounded)
    (found : loadConfig tree target = .ok config) {transformer : Option String}
    (quiet : (commandOf transformer).ChangesNothing programs) (force : Bool)
    (classes : List FilePath) :
    (enhance programs tree target transformer force classes).1.read
      (settingsOf target config).path = tree.read (settingsOf target config).path := by
  cases loaded : (settingsOf target config).load tree with
  | error error => rw [enhance_failed found loaded]
  | ok stored =>
      exact (keepsTexts_enhance grounded found quiet force classes).read_eq _
        (holdsText_of_load loaded)

/-- The file with the configuration of a project. -/
def configFile (target : Target) : FilePath :=
  target.config.getD (target.root.child ProjectConfig.fileName)

/-- A configuration that is found is a text, if it is there. -/
theorem holdsText_of_loadConfig (found : loadConfig tree target = .ok config) :
    tree.HoldsText (configFile target) := by
  refine FileTree.holdsText_of_readText fun no_text => ?_
  rw [configFile] at no_text
  cases given : target.config with
  | none =>
      rw [given, Option.getD_none] at no_text
      simp [loadConfig, given, ProjectConfig.load, no_text] at found
  | some path =>
      rw [given, Option.getD_some] at no_text
      simp [loadConfig, given, no_text] at found

theorem loadConfig_eq_of_read {after : FileTree}
    (same : after.read (configFile target) = tree.read (configFile target)) :
    loadConfig after target = loadConfig tree target := by
  rw [configFile] at same
  cases given : target.config with
  | none =>
      rw [given, Option.getD_none] at same
      simp only [loadConfig, given, ProjectConfig.load, FileTree.readText, same]
  | some path =>
      rw [given, Option.getD_some] at same
      simp only [loadConfig, given, FileTree.readText, same]

/-- An enhancement that ran a batch succeeds when the batch came to its end and wrote every class. -/
theorem code_enhanceAnswer_iff (root : FilePath) (messages : MessageLog) (report : BatchReport) :
    (enhanceAnswer root messages (some report)).code = 0 ↔
      report.fatal = none ∧ report.failed = [] := by
  simp [enhanceAnswer, isFailure]

end CommandLine
end ClassEnhancement
