import ClassEnhancement.Proofs.Batch.Report
import ClassEnhancement.Proofs.Manifest.Contributions

/-!
# Remarks of a batch

The messages of a run come from five writers: discovery, the runner, the resolver, the transformer
and the handler of whatever ends the run early.  A remark keeps the writer of a message and the
class at hand.  From moment to moment the transformer informs, the resolver warns, and the runner
has one error for each class that it notes as failed.
-/

namespace ClassEnhancement

/-- Who writes messages while a batch runs. -/
inductive Writer where
  | discovery
  | runner
  | resolver
  | transformer
  | handler
  deriving DecidableEq, Repr

/-- A message with its origin. -/
structure Remark where
  /-- Who wrote it. -/
  writer : Writer
  /-- The class at hand, if there is one. -/
  subject : Option ClassName
  /-- What is said. -/
  message : Message
  deriving DecidableEq

namespace Remark

/-- A warning about a manifest. -/
def ofDiscovery (message : Message) : Remark := ⟨.discovery, none, message⟩

/-- The packages in force. -/
def ofPackages (packages : PackageSet) : Remark := ⟨.runner, none, Batch.usingPackages packages⟩

/-- The remark that a batch came to its end. -/
def ofCompletion : Remark := ⟨.runner, none, Batch.completion⟩

/-- The remark on what ended a batch early. -/
def ofFatal (text : String) : Remark := ⟨.handler, none, .failure text⟩

/-- Whether an error is reported. -/
def isError (remark : Remark) : Bool := remark.message.severity == .error

end Remark

namespace Batch

/-- The message that a class could not be written back. -/
inductive RefusalOf (name : ClassName) (file : FilePath) : Message → Prop
  | unknown : RefusalOf name file (fileNotFound name)
  | unwritten (cause : FileError) : RefusalOf name file (cannotWrite name file cause)

/-- What the build is told when the bytes of a class are written back: nothing, or that they were
refused. -/
def refusal? (context : BuildContext) (tree : FileTree) (name : ClassName) (file : FilePath)
    (bytes : Bytes) : Option Message :=
  match context.layer.find? tree file with
  | none => some (fileNotFound name)
  | some handle =>
    match context.layer.write tree handle bytes with
    | .ok _ => none
    | .error cause => some (cannotWrite name file cause)

/-- Either a class is refused with a message and noted as failed, or no message is added. -/
theorem writeBack_refusal (context : BuildContext) (name : ClassName) (file : FilePath)
    (bytes : Bytes) (build : BuildState) (report : BatchReport) :
    (∃ message, refusal? context build.tree name file bytes = some message ∧
        RefusalOf name file message ∧ writeBack context name file bytes build report =
          (build.report [message], report.addFailed name)) ∨
      (refusal? context build.tree name file bytes = none ∧ ∃ tree written,
        writeBack context name file bytes build report =
          ({ build with tree, written }, report.addTransformed name)) := by
  unfold refusal? writeBack
  cases context.layer.find? build.tree file with
  | none => exact .inl ⟨_, rfl, .unknown, rfl⟩
  | some handle =>
      dsimp only
      cases context.layer.write build.tree handle bytes with
      | ok tree => exact .inr ⟨rfl, _, _, rfl⟩
      | error cause => exact .inl ⟨_, rfl, .unwritten cause, rfl⟩

end Batch

/-! ## Severities -/

theorem Message.eq_warning {message : Message} (warns : message.severity = .warning) :
    message = .warning message.text := by
  cases message
  cases warns
  rfl

theorem Message.eq_info_of_mem_ofOutput {message : Message} {output : String}
    (member : message ∈ ofOutput output) : ∃ text, message = .info text := by
  obtain ⟨line, -, rfl⟩ := List.mem_map.mp member
  exact ⟨_, rfl⟩

/-- Discovery only warns. -/
theorem Discovery.severity_of_mem_warnings {context : BuildContext} {tree : FileTree}
    {modules : List ProjectModule} {location : ManifestLocation} {message : Message}
    (member : message ∈ (find context tree modules location).warnings) :
    message.severity = .warning := by
  rw [warnings_eq, List.mem_append, List.mem_filterMap, List.mem_filterMap] at member
  rcases member with ⟨owner, -, warned⟩ | ⟨path, -, warned⟩
  · cases warning_ofModule.mp warned <;> rfl
  · obtain ⟨cause, -, rfl⟩ := warning_ofFile.mp warned
    rfl

/-- The resolver only warns on its way through the places of a module. -/
theorem Resolution.severity_of_mem_inPlaces {context : BuildContext} {tree : FileTree}
    {owner classPath : String} {declaring : FilePath} {places : List Place} {message : Message}
    (member : message ∈ (inPlaces context tree owner classPath declaring places).2) :
    message.severity = .warning := by
  induction places with
  | nil =>
      rw [inPlaces, List.mem_singleton] at member
      rw [member]
      rfl
  | cons place rest induction =>
      rw [inPlaces] at member
      cases directory : place.directory with
      | none =>
          rw [directory] at member
          rcases List.mem_cons.mp member with rfl | later
          · rfl
          · exact induction later
      | some directory' =>
          rw [directory] at member
          dsimp only at member
          split at member
          · cases member
          · cases member
          · exact induction member

theorem Resolution.severity_of_mem_ofStrategy {context : BuildContext} {tree : FileTree}
    {classes : CompiledSet} {classPath : String} {strategy : Strategy} {message : Message}
    (member : message ∈ (ofStrategy context tree classes classPath strategy).2) :
    message.severity = .warning := by
  cases strategy with
  | compiledSet => cases member
  | sourceIndex =>
      unfold ofStrategy ofSourceIndex at member
      dsimp only at member
      split at member
      · cases member
      · split at member
        · cases member
        · exact severity_of_mem_inPlaces member

theorem Resolver.severity_of_mem_ask {resolver : Resolver} {context : BuildContext}
    {tree : FileTree} {cache : ClassCache} {classPath : String} {strategies : List Strategy}
    {message : Message}
    (member : message ∈ (resolver.ask context tree cache classPath strategies).warnings) :
    message.severity = .warning := by
  induction strategies with
  | nil => cases member
  | cons strategy rest induction =>
      have warned := @Resolution.severity_of_mem_ofStrategy context tree resolver.classes classPath
        strategy message
      rw [ask] at member
      split at member
      · next bytes warnings same =>
          rw [same] at warned
          exact warned member
      · next error warnings same =>
          rw [same] at warned
          rcases List.mem_append.mp member with earlier | last
          · exact warned earlier
          · rw [List.mem_singleton.mp last]
            rfl
      · next warnings same =>
          rw [same] at warned
          rcases List.mem_append.mp member with earlier | later
          · exact warned earlier
          · exact induction later

/-- The resolver only warns. -/
theorem Resolver.severity_of_mem_resolve {resolver : Resolver} {context : BuildContext}
    {tree : FileTree} {cache : ClassCache} {classPath : String} {message : Message}
    (member : message ∈ (resolver.resolve context tree cache classPath).warnings) :
    message.severity = .warning := by
  unfold resolve at member
  split at member
  · cases member
  · exact severity_of_mem_ask member

/-! ## Remarks on classes -/

/-- A remark on a class of a batch: a line of the transformer, a warning of the resolver, or the
runner's error that the class could not be written back. -/
inductive Remark.OnClass (entries : List (ClassName × FilePath)) : Remark → Prop
  | output {name : ClassName} {file : FilePath} (member : (name, file) ∈ entries)
      (text : String) : OnClass entries ⟨.transformer, some name, .info text⟩
  | lookup {name : ClassName} {file : FilePath} (member : (name, file) ∈ entries)
      (text : String) : OnClass entries ⟨.resolver, some name, .warning text⟩
  | refusal {name : ClassName} {file : FilePath} {message : Message}
      (member : (name, file) ∈ entries) (refused : Batch.RefusalOf name file message) :
      OnClass entries ⟨.runner, some name, message⟩

/-- The runner's error on a class. -/
def Remark.ReportsFailure (entries : List (ClassName × FilePath)) (name : ClassName)
    (remark : Remark) : Prop :=
  ∃ file message, (name, file) ∈ entries ∧ Batch.RefusalOf name file message ∧
    remark = ⟨.runner, some name, message⟩

theorem Batch.RefusalOf.severity_eq {name : ClassName} {file : FilePath} {message : Message}
    (refused : RefusalOf name file message) : message.severity = .error := by
  cases refused <;> rfl

namespace Moment

variable {σ : Type} {bench : Workbench} {transformer : Transformer σ}

/-- What is remarked on the way to the next moment. -/
def remarks (bench : Workbench) : Moment σ → List Remark
  | within task (.log output _) _ =>
    (Message.ofOutput output).map fun message => ⟨.transformer, some task.name, message⟩
  | within task (.load classPath _) session =>
    let lookup := bench.resolver.resolve bench.context session.build.tree session.cache classPath
    lookup.warnings.map fun message => ⟨.resolver, some task.name, message⟩
  | within task (.finish _ (.replaced bytes)) session =>
    (Batch.refusal? bench.context session.build.tree task.name task.file bytes).toList.map
      fun message => ⟨.runner, some task.name, message⟩
  | _ => []

/-- What is remarked from one moment to a later one, or to itself. -/
inductive Speaks (bench : Workbench) (transformer : Transformer σ) (start : Moment σ) :
    List Remark → Moment σ → Prop
  | silent : Speaks bench transformer start [] start
  | next {said : List Remark} {before after : Moment σ}
      (speaks : Speaks bench transformer start said before)
      (step : Next bench transformer before after) :
      Speaks bench transformer start (said ++ before.remarks bench) after

theorem Speaks.reaches {start moment : Moment σ} {said : List Remark}
    (speaks : Speaks bench transformer start said moment) :
    Reaches bench transformer start moment := by
  induction speaks with
  | silent => exact .refl
  | next speaks step induction => exact induction.tail step

theorem exists_speaks {start moment : Moment σ} (reach : Reaches bench transformer start moment) :
    ∃ said, Speaks bench transformer start said moment := by
  induction reach with
  | refl => exact ⟨[], .silent⟩
  | tail reach step induction =>
      obtain ⟨said, speaks⟩ := induction
      exact ⟨_, speaks.next step⟩

/-- What remarks say of a moment: they are the messages since the start, each on a class, and the
errors among them stand for the classes that failed. -/
structure Told (entries : List (ClassName × FilePath)) (packages : PackageSet)
    (messages : List Message) (said : List Remark) (moment : Moment σ) : Prop where
  /-- The remarks are the messages since the start. -/
  messages_eq : moment.session.build.messages = messages ++ said.map Remark.message
  /-- Every remark is on a class. -/
  on_class : ∀ remark ∈ said, remark.OnClass entries
  /-- The errors are the failures of the report, in order. -/
  failures : List.Forall₂ (Remark.ReportsFailure entries) moment.report.failed
    (said.filter Remark.isError)
  /-- The packages stay in force. -/
  packages_eq : moment.report.packages = packages

namespace Told

variable {entries : List (ClassName × FilePath)} {packages : PackageSet} {messages : List Message}
  {said : List Remark} {before after : Moment σ}

/-- Further remarks tell of a later moment when they tell what has changed. -/
theorem extend (told : Told entries packages messages said before) {more : List Remark}
    {names : List ClassName}
    (added : after.session.build.messages =
      before.session.build.messages ++ more.map Remark.message)
    (on_class : ∀ remark ∈ more, remark.OnClass entries)
    (failed : after.report.failed = before.report.failed ++ names)
    (failures : List.Forall₂ (Remark.ReportsFailure entries) names (more.filter Remark.isError))
    (kept : after.report.packages = before.report.packages) :
    Told entries packages messages (said ++ more) after where
  messages_eq := by rw [added, told.messages_eq, List.map_append, List.append_assoc]
  on_class remark member := by
    rcases List.mem_append.mp member with earlier | later
    · exact told.on_class remark earlier
    · exact on_class remark later
  failures := by
    rw [failed, List.filter_append]
    exact List.rel_append told.failures failures
  packages_eq := kept.trans told.packages_eq

theorem keep (told : Told entries packages messages said before)
    (same : after.session.build.messages = before.session.build.messages)
    (failed : after.report.failed = before.report.failed)
    (kept : after.report.packages = before.report.packages) :
    Told entries packages messages (said ++ []) after := by
  have failed_eq : after.report.failed = before.report.failed ++ [] := by
    rw [failed, List.append_nil]
  refine told.extend ?_ nofun failed_eq .nil kept
  rw [same, List.map_nil, List.append_nil]

end Told

/-- Remarks of other severities are no errors. -/
theorem filter_isError_map {messages : List Message} {remark : Message → Remark}
    (kept : ∀ message, (remark message).message = message)
    (mild : ∀ message ∈ messages, message.severity ≠ .error) :
    (messages.map remark).filter Remark.isError = [] := by
  rw [List.filter_eq_nil_iff]
  intro said member
  obtain ⟨message, listed, rfl⟩ := List.mem_map.mp member
  simpa [Remark.isError, kept] using mild message listed

theorem told_of_next {entries : List (ClassName × FilePath)} {packages : PackageSet}
    {messages : List Message} {said : List Remark} {before after : Moment σ}
    (step : Next bench transformer before after) (covered : before.Covered entries)
    (told : Told entries packages messages said before) :
    Told entries packages messages (said ++ before.remarks bench) after := by
  have at_hand : ∀ task work session, before = within task work session →
      (task.name, task.file) ∈ entries := by
    rintro task work session rfl
    obtain ⟨dealt, split, -⟩ := covered
    rw [split]
    exact List.mem_append_right _ List.mem_cons_self
  cases step with
  | log task output next session =>
      have lines : ∀ message ∈ Message.ofOutput output, ∃ text, message = .info text :=
        fun message => Message.eq_info_of_mem_ofOutput
      refine told.extend ?_ ?_ (List.append_nil _).symm ?_ rfl
      · simp [remarks, Moment.session, Function.comp_def]
      · intro remark member
        obtain ⟨message, listed, rfl⟩ := List.mem_map.mp member
        obtain ⟨text, rfl⟩ := lines message listed
        exact .output (at_hand _ _ _ rfl) text
      · rw [remarks, filter_isError_map (fun _ => rfl)]
        · exact .nil
        · intro message listed
          obtain ⟨text, rfl⟩ := lines message listed
          exact nofun
  | load task classPath next session =>
      refine told.extend ?_ ?_ (List.append_nil _).symm ?_ rfl
      · simp [remarks, Moment.session, Workbench.load, Function.comp_def]
      · intro remark member
        obtain ⟨message, listed, rfl⟩ := List.mem_map.mp member
        rw [Message.eq_warning (Resolver.severity_of_mem_resolve listed)]
        exact .lookup (at_hand _ _ _ rfl) _
      · rw [remarks, filter_isError_map (fun _ => rfl)]
        · exact .nil
        · intro message listed
          rw [Resolver.severity_of_mem_resolve listed]
          exact nofun
  | replace task agent bytes session =>
      have member := at_hand _ _ _ rfl
      rcases Batch.writeBack_refusal bench.context task.name task.file bytes session.build
        task.report with ⟨message, told', refused, written⟩ | ⟨silent, tree, files, written⟩
      · have one : (within task (.finish agent (.replaced bytes)) session).remarks bench =
            [⟨.runner, some task.name, message⟩] := by
          rw [remarks, told']
          rfl
        have failed_eq : (writtenBack bench.context task bytes session agent).report.failed =
            task.report.failed ++ [task.name] := by
          simp [writtenBack, written, BatchReport.addFailed]
        rw [one]
        refine told.extend ?_ ?_ failed_eq ?_ ?_
        · simp [Moment.session, writtenBack, written]
        · intro remark listed
          rw [List.mem_singleton.mp listed]
          exact .refusal member refused
        · have error : Remark.isError ⟨.runner, some task.name, message⟩ = true := by
            simp [Remark.isError, refused.severity_eq]
          rw [List.filter_cons_of_pos error]
          exact .cons ⟨task.file, message, member, refused, rfl⟩ .nil
        · simp [Moment.report, writtenBack, written, BatchReport.addFailed]
      · have none_said :
            (within task (.finish agent (.replaced bytes)) session).remarks bench = [] := by
          rw [remarks, silent]
          rfl
        rw [none_said]
        refine told.keep ?_ ?_ ?_ <;>
          simp [Moment.session, Moment.report, writtenBack, written, BatchReport.addTransformed]
  | _ => exact told.keep rfl rfl rfl

end Moment

end ClassEnhancement
