import ClassEnhancement.ClassFile.Encoding
import ClassEnhancement.Proofs.Build.Shape
import ClassEnhancement.Proofs.CommandLine.Invocation

/-!
# Sessions at the command line

A session is any sequence of invocations for one project.  Nothing is kept between them but the
files, and yet the status is what was chosen last, only a switch changes the settings, and an
enhancement does something only when it is on or forced.  This holds as long as the configuration is
found again after every switch: a switch creates directories, and behind a link they may bring
another one to light.  Whatever else is asked leaves the configuration where it is.
-/

namespace ClassEnhancement
namespace CommandLine

/-! ## Histories -/

namespace Request

/-- The project that a request is about. -/
def target? : Request → Option Target
  | .enhance target _ _ _ => some target
  | .switch target _ => some target
  | .status target => some target
  | .packages target => some target
  | .help _ => none
  | .version => none

/-- The transformer command of a request, if there is one, changes no file itself. -/
def IsQuiet (programs : Programs) : Request → Prop
  | .enhance _ transformer _ _ => (commandOf transformer).ChangesNothing programs
  | _ => True

end Request

/-- Requests with their answers, in order. -/
abbrev History := List (Request × Answer)

/-- A switch that succeeds is a choice; nothing else is. -/
def choose (chosen : Bool) (entry : Request × Answer) : Bool :=
  match entry.1 with
  | .switch _ on => if entry.2.code = 0 then on else chosen
  | _ => chosen

/-- What was chosen last, or what was so before. -/
def lastChoice (before : Bool) (history : History) : Bool := history.foldl choose before

/-- No switch failed. -/
def NoSwitchFailed (history : History) : Prop :=
  ∀ entry ∈ history, ∀ target on, entry.1 = .switch target on → entry.2.code = 0

/-- No switch was asked for. -/
def NoSwitch (history : History) : Prop :=
  ∀ entry ∈ history, ∀ target on, entry.1 ≠ .switch target on

/-- Command lines for one project, with what they were answered and the files that they leave.
Transformer commands change no file themselves, and no switch brings another configuration to
light. -/
inductive Session (programs : Programs) (target : Target) (config : ProjectConfig)
    (start : FileTree) : History → FileTree → Prop
  /-- Nothing was asked yet. -/
  | nothing (found : loadConfig start target = .ok config) :
      Session programs target config start [] start
  /-- One more command line.  After a switch the configuration is found as before. -/
  | invoke {history : History} {tree : FileTree}
      (earlier : Session programs target config start history tree) {arguments : List String}
      {request : Request} (asked : Request.ofArguments? arguments = some request)
      (about : request.target? = some target) (quiet : request.IsQuiet programs)
      (found : ∀ on, request = .switch target on →
        loadConfig (run programs tree arguments).1 target = .ok config) :
      Session programs target config start
        (history ++ [(request, (run programs tree arguments).2)]) (run programs tree arguments).1

variable {programs : Programs} {tree start : FileTree} {target : Target} {config : ProjectConfig}
  {stored : Option EnhancementState} {request : Request} {history : History}

/-! ## One request -/

/-- A switch chooses if it succeeds, and changes nothing of what the settings say otherwise. -/
theorem isOn_switch (found : loadConfig tree target = .ok config) (on : Bool) :
    (settingsOf target config).isOn (switch programs tree target on).1 =
      choose ((settingsOf target config).isOn tree)
        (.switch target on, (switch programs tree target on).2) := by
  cases loaded : (settingsOf target config).load tree with
  | error error =>
      rw [switch_failed found loaded]
      rfl
  | ok stored =>
      rw [switch_eq found loaded]
      split
      · next saved => exact SettingsStore.isOn_of_saved saved
      · next failed => exact SettingsStore.isOn_of_failed failed

theorem isGrounded_switch (found : loadConfig tree target = .ok config)
    (grounded : tree.IsGrounded) (on : Bool) :
    (switch programs tree target on).1.IsGrounded := by
  cases loaded : (settingsOf target config).load tree with
  | error error =>
      rw [switch_failed found loaded]
      exact grounded
  | ok stored =>
      have kept := (settingsOf target config).isGrounded_save grounded ⟨on⟩
      rw [switch_eq found loaded]
      split
      · next saved =>
          rw [saved] at kept
          exact kept
      · next failed =>
          rw [failed] at kept
          exact kept

/-- A request other than a switch keeps every text, and does not touch the settings. -/
theorem answer_frame (grounded : tree.IsGrounded) (found : loadConfig tree target = .ok config)
    (about : request.target? = some target) (quiet : request.IsQuiet programs)
    (no_switch : ∀ on, request ≠ .switch target on) :
    tree.KeepsTexts (answer programs tree request).1 ∧
      (answer programs tree request).1.read (settingsOf target config).path =
        tree.read (settingsOf target config).path := by
  cases request with
  | help | version => cases about
  | status | packages => exact ⟨.refl tree, rfl⟩
  | switch other on =>
      cases about
      exact (no_switch on rfl).elim
  | enhance other transformer force classes =>
      cases about
      exact ⟨keepsTexts_enhance grounded found quiet force classes,
        read_settings_enhance grounded found quiet force classes⟩

/-- The configuration is found again after any request, if it is after a switch. -/
theorem found_answer (grounded : tree.IsGrounded) (found : loadConfig tree target = .ok config)
    (about : request.target? = some target) (quiet : request.IsQuiet programs)
    (found_after : ∀ on, request = .switch target on →
      loadConfig (answer programs tree request).1 target = .ok config) :
    (answer programs tree request).1.IsGrounded ∧
      loadConfig (answer programs tree request).1 target = .ok config := by
  by_cases switches : ∃ on, request = .switch target on
  · obtain ⟨on, rfl⟩ := switches
    exact ⟨isGrounded_switch found grounded on, found_after on rfl⟩
  · obtain ⟨kept, -⟩ := answer_frame grounded found about quiet (not_exists.mp switches)
    have same := loadConfig_eq_of_read (kept.read_eq _ (holdsText_of_loadConfig found))
    exact ⟨kept.isGrounded grounded, same.trans found⟩

/-- What the settings say follows the choices, request by request. -/
theorem isOn_answer (grounded : tree.IsGrounded) (found : loadConfig tree target = .ok config)
    (about : request.target? = some target) (quiet : request.IsQuiet programs) :
    (settingsOf target config).isOn (answer programs tree request).1 =
      choose ((settingsOf target config).isOn tree) (request, (answer programs tree request).2) := by
  cases request with
  | help | version => cases about
  | switch =>
      cases about
      exact isOn_switch found _
  | status | packages | enhance =>
      obtain ⟨-, kept⟩ := answer_frame grounded found about quiet fun _ => by simp
      exact SettingsStore.isOn_eq_of_read kept

/-- Settings that are loaded stay so, unless a switch fails. -/
theorem load_answer (grounded : tree.IsGrounded) (found : loadConfig tree target = .ok config)
    (about : request.target? = some target) (quiet : request.IsQuiet programs)
    (succeeds : ∀ on, request = .switch target on → (answer programs tree request).2.code = 0)
    (loaded : (settingsOf target config).load tree = .ok stored) :
    ∃ now, (settingsOf target config).load (answer programs tree request).1 = .ok now := by
  cases request with
  | help | version => cases about
  | switch other on =>
      cases about
      have success := succeeds on rfl
      rw [answer, switch_eq found loaded] at success ⊢
      split at success
      · next saved => exact ⟨_, SettingsStore.loads_saved saved⟩
      · cases success
  | status | packages | enhance =>
      obtain ⟨-, kept⟩ := answer_frame grounded found about quiet fun _ => by simp
      exact ⟨stored, (SettingsStore.load_eq_of_read kept).trans loaded⟩

/-! ## Whole sessions -/

theorem lastChoice_append (before : Bool) (history : History) (entry : Request × Answer) :
    lastChoice before (history ++ [entry]) = choose (lastChoice before history) entry := by
  simp [lastChoice]

theorem run_eq {arguments : List String} (asked : Request.ofArguments? arguments = some request) :
    run programs tree arguments = answer programs tree request := by
  rw [run, asked]

/-- After any session the configuration is found where it was. -/
theorem Session.found (session : Session programs target config start history tree)
    (grounded : start.IsGrounded) : tree.IsGrounded ∧ loadConfig tree target = .ok config := by
  induction session with
  | nothing found => exact ⟨grounded, found⟩
  | invoke _ asked about quiet found_after hypothesis =>
      obtain ⟨grounded_now, found_now⟩ := hypothesis
      rw [run_eq asked] at found_after ⊢
      exact found_answer grounded_now found_now about quiet found_after

/-- After any session the settings say what was chosen last. -/
theorem Session.isOn (session : Session programs target config start history tree)
    (grounded : start.IsGrounded)
    (loaded : (settingsOf target config).load start = .ok stored) :
    (settingsOf target config).isOn tree =
      lastChoice (stored.getD ⟨false⟩).enabled history := by
  induction session with
  | nothing => exact SettingsStore.isOn_of_load loaded
  | invoke earlier asked about quiet _ chosen =>
      obtain ⟨grounded_now, found_now⟩ := earlier.found grounded
      rw [run_eq asked, lastChoice_append, ← chosen]
      exact isOn_answer grounded_now found_now about quiet

theorem NoSwitchFailed.of_append {entry : Request × Answer}
    (none_failed : NoSwitchFailed (history ++ [entry])) : NoSwitchFailed history :=
  fun earlier listed => none_failed earlier (List.mem_append_left _ listed)

/-- After a session without a switch that failed, the settings are loaded. -/
theorem Session.load (session : Session programs target config start history tree)
    (grounded : start.IsGrounded)
    (loaded : (settingsOf target config).load start = .ok stored)
    (none_failed : NoSwitchFailed history) :
    ∃ now, (settingsOf target config).load tree = .ok now := by
  induction session with
  | nothing => exact ⟨stored, loaded⟩
  | invoke earlier asked about quiet _ hypothesis =>
      obtain ⟨now, loaded_now⟩ := hypothesis none_failed.of_append
      obtain ⟨grounded_now, found_now⟩ := earlier.found grounded
      have succeeds := none_failed _ (List.mem_append_right _ List.mem_cons_self)
      rw [run_eq asked] at succeeds ⊢
      exact load_answer grounded_now found_now about quiet
        (fun on switches => succeeds target on switches) loaded_now

theorem NoSwitch.of_append {entry : Request × Answer}
    (no_switch : NoSwitch (history ++ [entry])) : NoSwitch history :=
  fun earlier listed => no_switch earlier (List.mem_append_left _ listed)

/-- A session without a switch changes the contents of files only. -/
theorem Session.sameShape (session : Session programs target config start history tree)
    (grounded : start.IsGrounded) (no_switch : NoSwitch history) :
    FileTree.SameShape start tree := by
  induction session with
  | nothing => exact .refl start
  | invoke earlier asked about quiet _ hypothesis =>
      obtain ⟨grounded_now, found_now⟩ := earlier.found grounded
      have other := no_switch _ (List.mem_append_right _ List.mem_cons_self)
      obtain ⟨kept, -⟩ := answer_frame grounded_now found_now about quiet (other target)
      rw [run_eq asked]
      exact (hypothesis no_switch.of_append).trans kept.toSameShape

/-- What command lines for a project come to in a tree, where the enhancement was last chosen to be
on or off. -/
structure Obeys (programs : Programs) (target : Target) (config : ProjectConfig) (chosen : Bool)
    (tree : FileTree) : Prop where
  /-- The status is that the enhancement is on when that was chosen, and only then. -/
  status : ∀ arguments, Request.ofArguments? arguments = some (.status target) →
    ((run programs tree arguments).2.output = line "enabled" ↔ chosen = true)
  /-- The status is told as long as the settings can be read. -/
  told : ∀ arguments now, Request.ofArguments? arguments = some (.status target) →
    (settingsOf target config).load tree = .ok now →
    run programs tree arguments =
      (tree, .success (line (if chosen then "enabled" else "disabled")))
  /-- Nothing but a switch changes the settings. -/
  kept : ∀ arguments request, Request.ofArguments? arguments = some request →
    request.target? = some target → request.IsQuiet programs →
    (∀ on, request ≠ .switch target on) →
    (run programs tree arguments).1.read (settingsOf target config).path =
      tree.read (settingsOf target config).path
  /-- An enhancement that is neither forced nor chosen changes nothing, and it succeeds when all that
  it needs can be read. -/
  idle : ∀ arguments transformer classes,
    Request.ofArguments? arguments = some (.enhance target transformer false classes) →
    chosen = false →
    (run programs tree arguments).1 = tree ∧
      ∀ compiled project now, (settingsOf target config).load tree = .ok now →
        CompiledSet.ofFiles tree classes = .ok compiled →
        config.buildProject tree target.root = .ok project →
        (run programs tree arguments).2.code = 0
  /-- Any other enhancement runs a batch.  It succeeds when the batch dealt with the class of every
  file that was given and could write all of them, and only then. -/
  batch : ∀ arguments transformer force classes compiled project now,
    Request.ofArguments? arguments = some (.enhance target transformer force classes) →
    (settingsOf target config).load tree = .ok now →
    CompiledSet.ofFiles tree classes = .ok compiled →
    config.buildProject tree target.root = .ok project → (force || chosen) = true →
    let result := (batchOf programs (commandOf transformer) config project compiled).run
      (.initial tree) ()
    (run programs tree arguments).1 = result.build.tree ∧
      ((run programs tree arguments).2.code = 0 ↔
        (∀ path ∈ classes, ∀ name file, CompiledSet.IsClassFile tree path name file →
          result.report.Names name) ∧ result.report.failed = [])

theorem classes_ne_nil_of_given {command : Subcommand} {given : Given} {transformer : Option String}
    {force : Bool} {classes : List FilePath}
    (asked : given.request? command = some (.enhance target transformer force classes)) :
    classes ≠ [] := by
  cases command with
  | enhance =>
      rw [Given.request?] at asked
      split at asked
      · cases asked
      · next some_operand =>
          cases asked
          simpa using some_operand
  | enable | disable | status | packages => cases asked

/-- An enhancement is asked for some classes. -/
theorem classes_ne_nil {arguments : List String} {transformer : Option String} {force : Bool}
    {classes : List FilePath}
    (asked : Request.ofArguments? arguments = some (.enhance target transformer force classes)) :
    classes ≠ [] := by
  unfold Request.ofArguments? at asked
  split at asked
  · cases asked
  split at asked
  · split at asked
    · cases asked
    · exact classes_ne_nil_of_given asked
    · cases asked
  -- Everything else asks for help or for the version.
  split at asked
  · unfold helpRequest? at asked
    split at asked
    · cases asked
    · split at asked
      · cases asked
      · obtain ⟨command, -, same⟩ := Option.map_eq_some_iff.mp asked
        cases same
    · cases asked
  · split at asked
    · cases asked
    split at asked
    · cases asked
    split at asked <;> cases asked

variable (programs config) in
/-- A batch comes to its end when its report names the class of every file that was given. -/
theorem fatal_batchOf_iff {compiled : CompiledSet} {classes : List FilePath}
    (some_class : classes ≠ []) (read : CompiledSet.ofFiles tree classes = .ok compiled)
    (command : TransformCommand) (project : Project) :
    let result := (batchOf programs command config project compiled).run (.initial tree) ()
    result.report.fatal = none ↔
      ∀ path ∈ classes, ∀ name file, CompiledSet.IsClassFile tree path name file →
        result.report.Names name := by
  intro result
  have some_key : (batchOf programs command config project compiled).classes.keys ≠ [] :=
    CompiledSet.keys_ne_nil read some_class
  rw [show result.report.fatal = none ↔ _ from Batch.fatal_eq_none_iff some_key]
  constructor
  · intro all path member name file given
    exact all name (CompiledSet.mem_keys_of_given read member given)
  · intro all name listed
    obtain ⟨⟨name, file⟩, member, rfl⟩ := List.mem_map.mp listed
    obtain ⟨path, given, is_class⟩ := CompiledSet.exists_isClassFile read member
    exact all path given name file is_class

/-- Whatever was asked in a session, the next command line does what was chosen last.  As long as no
switch failed, the settings can be read, and as long as there was no switch, the directories of the
project can be read as before. -/
theorem obeys_of_session (grounded : start.IsGrounded)
    (loaded : (settingsOf target config).load start = .ok stored)
    (session : Session programs target config start history tree) :
    Obeys programs target config (lastChoice (stored.getD ⟨false⟩).enabled history) tree ∧
      (NoSwitchFailed history → ∃ now, (settingsOf target config).load tree = .ok now) ∧
      (NoSwitch history →
        config.buildProject tree target.root = config.buildProject start target.root) := by
  obtain ⟨grounded_now, found⟩ := session.found grounded
  refine ⟨?_, session.load grounded loaded, fun no_switch =>
    config.buildProject_eq_of_sameShape (session.sameShape grounded no_switch).symm _⟩
  rw [← session.isOn grounded loaded]
  constructor
  · intro arguments asked
    rw [run_eq asked]
    exact output_status_iff found
  · intro arguments now asked loaded_now
    rw [run_eq asked, answer, status_eq found loaded_now]
  · intro arguments request asked about quiet no_switch
    rw [run_eq asked]
    exact (answer_frame grounded_now found about quiet no_switch).2
  · intro arguments transformer classes asked off
    rw [run_eq asked]
    refine ⟨enhance_off found off transformer classes, ?_⟩
    intro compiled project now loaded_now read built
    rw [answer, enhance_eq found loaded_now read built, off]
    rfl
  · intro arguments transformer force classes compiled project now asked loaded_now read built on
    rw [run_eq asked, answer, enhance_eq found loaded_now read built, if_pos on]
    have names_all := fatal_batchOf_iff programs config (classes_ne_nil asked) read
      (commandOf transformer) project
    exact ⟨rfl, (code_enhanceAnswer_iff target.root _ _).trans (and_congr_left' names_all)⟩

/-! ## A project that is switched on -/

/-- A system in which every program prints its input with another octet, and changes no file. -/
def printing : Programs :=
  ⟨fun tree invocation => (tree, .ok ⟨.code 0, invocation.input ++ [0], []⟩)⟩

/-- A project below the working directory. -/
def shop : Target := ⟨⟨"shop"⟩, none⟩

/-- The directory of the project beside a class file. -/
def shopFiles : FileTree :=
  ((FileTree.empty ["work"]).put ["work", "shop"] .directory).put ["work", "A.class"]
    (.file (ClassFile.minimalFile "a/A" "a/B"))

/-- Switches the project on. -/
def enableLine : List String := ["enable", "--project", "shop"]

/-- Enhances the class. -/
def enhanceLine : List String := ["enhance", "--project", "shop", "-t", "mark", "A.class"]

/-- The files after the project was switched on. -/
def shopEnabled : FileTree := (run printing shopFiles enableLine).1

/-- The files after the class was enhanced. -/
def shopEnhanced : FileTree := (run printing shopEnabled enhanceLine).1

theorem isGrounded_shopFiles : shopFiles.IsGrounded :=
  (FileTree.isReachable_root shopFiles).child rfl
    ⟨by decide, ⟨by decide, by decide⟩, by decide⟩

/-- What was asked, and answered. -/
def shopHistory : History :=
  [(.switch shop true, (run printing shopFiles enableLine).2),
    (.enhance shop (some "mark") false [⟨"A.class"⟩], (run printing shopEnabled enhanceLine).2)]

/-- The project is switched on, and then its class is enhanced: it is on from then on. -/
theorem obeys_of_session_shop :
    Session printing shop .standard shopFiles shopHistory shopEnhanced ∧
      Obeys printing shop .standard true shopEnhanced ∧
      ∃ now, (settingsOf shop .standard).load shopEnhanced = .ok now := by
  have enable : Request.ofArguments? enableLine = some (.switch shop true) := by decide
  have enhance : Request.ofArguments? enhanceLine =
      some (.enhance shop (some "mark") false [⟨"A.class"⟩]) := by decide
  have quiet : (commandOf (some "mark")).ChangesNothing printing := fun _ _ _ _ _ _ _ _ => rfl
  have found : loadConfig shopFiles shop = .ok .standard := by decide +kernel
  have found_enabled : loadConfig shopEnabled shop = .ok .standard := by decide +kernel
  have loaded : (settingsOf shop .standard).load shopFiles = .ok none := by decide +kernel
  have success : (run printing shopFiles enableLine).2.code = 0 := by decide +kernel
  have enabled : Session printing shop .standard shopFiles (shopHistory.take 1) shopEnabled :=
    .invoke (.nothing found) enable rfl trivial fun _ _ => found_enabled
  have enhanced : Session printing shop .standard shopFiles shopHistory shopEnhanced :=
    .invoke enabled enhance rfl quiet fun _ => nofun
  have chosen : lastChoice ((none : Option EnhancementState).getD ⟨false⟩).enabled shopHistory =
      true := by
    simp [lastChoice, shopHistory, choose, success]
  have none_failed : NoSwitchFailed shopHistory := by
    intro entry listed target on switches
    rcases List.mem_cons.mp listed with rfl | later
    · exact success
    · obtain rfl := List.mem_singleton.mp later
      cases switches
  obtain ⟨obeys, loads, -⟩ := obeys_of_session isGrounded_shopFiles loaded enhanced
  rw [chosen] at obeys
  exact ⟨enhanced, obeys, loads none_failed⟩

/-! ## Directories that change what is found -/

/-- The configuration of the project is a link across the directory that a switch creates. -/
def linkedFiles : FileTree :=
  (((FileTree.empty ["work"]).put ["work", "shop"] .directory).put ["work", "shop", "tqe.toml"]
    (.link ⟨".tqe/../other.toml"⟩)).put ["work", "shop", "other.toml"]
    (.file (Utf8.encode "settings_path = \"other.json\"\n"))

/-- A directory is in the place of the settings, across a directory that a switch creates. -/
def blockedFiles : FileTree :=
  ((((FileTree.empty ["work"]).put ["work", "shop"] .directory).put ["work", "shop", "tqe.toml"]
    (.file (Utf8.encode "settings_path = \"new/../s.json\"\n"))).put ["work", "shop", "s.json"]
      .directory).put ["work", "A.class"] (.file (ClassFile.minimalFile "a/A" "a/B"))

/-- A library with a link that leads nowhere is across a directory that a switch creates. -/
def brokenFiles : FileTree :=
  (((((FileTree.empty ["work"]).put ["work", "shop"] .directory).put ["work", "shop", "tqe.toml"]
    (.file (Utf8.encode "settings_path = \"new/s.json\"\nlibrary_dirs = [\"new/../lib\"]\n"))).put
      ["work", "shop", "lib"] .directory).put ["work", "shop", "lib", "L.class"]
        (.link ⟨"nowhere"⟩)).put ["work", "A.class"] (.file (ClassFile.minimalFile "a/A" "a/B"))

/-- Directories that a switch creates change what later invocations find.  A link leads to another
configuration, whose settings say that the project is off, although it was just switched on.  Where
the switch failed, the settings are found and cannot be read, so an enhancement that had nothing to
do before fails; and so it does where a library is found that cannot be walked. -/
theorem found_after_switch :
    (loadConfig linkedFiles shop = .ok .standard ∧
        (settingsOf shop .standard).load linkedFiles = .ok none ∧
        let enabled := run printing linkedFiles enableLine
        enabled.2 = .success "enhancement enabled for shop\n" ∧
          loadConfig enabled.1 shop =
            .ok { ProjectConfig.standard with settingsPath := ⟨"other.json"⟩ } ∧
          (run printing enabled.1 ["status", "--project", "shop"]).2 = .success "disabled\n") ∧
      ((run printing blockedFiles enhanceLine).2.code = 0 ∧
        let failed := run printing blockedFiles enableLine
        failed.2.code = 1 ∧ (run printing failed.1 enhanceLine).2.code = 1) ∧
      (run printing brokenFiles enhanceLine).2.code = 0 ∧
      let disabled := run printing brokenFiles ["disable", "--project", "shop"]
      disabled.2.code = 0 ∧ (run printing disabled.1 enhanceLine).2.code = 1 := by
  decide +kernel

end CommandLine
end ClassEnhancement
