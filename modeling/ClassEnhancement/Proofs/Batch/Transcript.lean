import ClassEnhancement.Proofs.Batch.Remarks

/-!
# Transcripts of batches

The remarks of a run open with the warnings of discovery and the packages in force, go on with those
on classes, moment by moment, and close with one on how the run ended.  They are the messages that
the run adds, so its errors are the failures of the report.
-/

namespace ClassEnhancement
namespace Batch

variable {σ : Type}

/-- The remarks before the first class. -/
def opening (batch : Batch σ) (build : BuildState) : List Remark :=
  (batch.discovery build).warnings.map Remark.ofDiscovery ++
    [.ofPackages (batch.discovery build).packages]

/-- The remark on how the classes came to their end. -/
def closing : Option EnhanceError → Remark
  | none => .ofCompletion
  | some error => .ofFatal error.report

/-- What is remarked in a whole run. -/
inductive Utters (batch : Batch σ) (retention : Retention) (build : BuildState) (agent : σ) :
    List Remark → Prop
  /-- No transformer is created, for a reason. -/
  | refused {ready : σ} {error : EnhanceError}
      (created : batch.create build agent = (ready, .refused error)) :
      Utters batch retention build agent (batch.opening build ++ [] ++ [closing (some error)])
  /-- The creation of a transformer panics. -/
  | panicked {ready : σ} {reason : String}
      (created : batch.create build agent = (ready, .panicked reason)) :
      Utters batch retention build agent
        (batch.opening build ++ [] ++ [closing (some (.panicked reason))])
  /-- The transformer works on classes. -/
  | ran {ready : σ} {transformer : Transformer σ} {said : List Remark}
      {left : List (ClassName × FilePath)} {run : BatchRun σ} {error : Option EnhanceError}
      (created : batch.create build agent = (ready, .ready transformer))
      (speaks : Moment.Speaks (batch.bench retention) transformer
        (.between batch.classes.entries (batch.start build ready)) said (.ended left run error)) :
      Utters batch retention build agent (batch.opening build ++ said ++ [closing error])

/-- The last remark, by the report. -/
inductive Closes (report : BatchReport) : Remark → Prop
  | completed (done : report.completed = true) (sound : report.fatal = none) :
      Closes report .ofCompletion
  | fatal {text : String} (undone : report.completed = false) (ended : report.fatal = some text) :
      Closes report (.ofFatal text)

theorem Closes.filter_isError {report : BatchReport} {last : Remark} (closes : Closes report last) :
    [last].filter Remark.isError = (report.fatal.map Remark.ofFatal).toList := by
  cases closes with
  | completed done sound =>
      rw [sound]
      rfl
  | fatal undone ended =>
      rw [ended]
      rfl

theorem Closes.eq_ofCompletion_iff {report : BatchReport} {last : Remark}
    (closes : Closes report last) : last = .ofCompletion ↔ report.completed = true := by
  cases closes with
  | completed done sound => exact ⟨fun _ => done, fun _ => rfl⟩
  | fatal undone ended =>
      constructor
      · intro same
        cases congrArg Remark.writer same
      · intro done
        cases undone.symm.trans done

theorem Closes.writer_ne_discovery {report : BatchReport} {last : Remark}
    (closes : Closes report last) : last.writer ≠ .discovery := by
  cases closes <;> exact nofun

variable {batch : Batch σ} {retention : Retention} {build : BuildState} {agent : σ}

theorem messages_announce (batch : Batch σ) (build : BuildState) :
    (batch.announce build).messages =
      build.messages ++ (batch.opening build).map Remark.message := by
  simp [announce, opening, Remark.ofDiscovery, Remark.ofPackages, Function.comp_def]

theorem messages_abort_announce (batch : Batch σ) (build : BuildState) (agent : σ)
    (report : BatchReport) (error : EnhanceError) :
    (abort (batch.announce build) agent report error).build.messages =
      build.messages ++ (batch.opening build ++ [] ++ [closing (some error)]).map Remark.message := by
  simp [abort, messages_announce, closing, Remark.ofFatal]

/-- At every moment the remarks since the start tell of it. -/
theorem told_of_speaks {ready : σ} {transformer : Transformer σ}
    (created : batch.create build agent = (ready, .ready transformer)) {said : List Remark}
    {moment : Moment σ} (speaks : Moment.Speaks (batch.bench retention) transformer
      (.between batch.classes.entries (batch.start build ready)) said moment) :
    Moment.Told batch.classes.entries (batch.discovery build).packages
      (batch.announce build).messages said moment := by
  induction speaks with
  | silent =>
      exact
        { messages_eq := (List.append_nil _).symm
          on_class := nofun
          failures := .nil
          packages_eq := rfl }
  | next speaks step induction =>
      have passes : batch.Passes retention build agent _ :=
        ⟨ready, transformer, created, speaks.reaches⟩
      exact Moment.told_of_next step (covered_of_passes passes) induction

/-- A batch that has its transformer speaks until its moments end. -/
theorem speaks_end (retention : Retention) {ready : σ} {transformer : Transformer σ}
    (created : batch.create build agent = (ready, .ready transformer)) :
    ∃ said left run error,
      Moment.Speaks (batch.bench retention) transformer
        (.between batch.classes.entries (batch.start build ready)) said
        (.ended left run error) ∧
      batch.runRetaining retention build agent = conclude run error := by
  obtain ⟨left, run, error, ⟨ready', transformer', created', reach⟩, result⟩ :=
    passes_end retention created
  obtain ⟨rfl, same⟩ := Prod.mk.inj (created.symm.trans created')
  obtain rfl : transformer = transformer' := by simpa using same
  obtain ⟨said, speaks⟩ := Moment.exists_speaks reach
  exact ⟨said, left, run, error, speaks, result⟩

theorem closes_conclude {entries : List (ClassName × FilePath)}
    {left : List (ClassName × FilePath)} {run : BatchRun σ} {error : Option EnhanceError}
    (covered : (Moment.ended left run error).Covered entries) :
    Closes (conclude run error).report (closing error) := by
  obtain ⟨dealt, -, covers⟩ := covered
  cases error with
  | none => exact .completed rfl covers.fatal
  | some error => exact .fatal covers.completed rfl

theorem messages_conclude (run : BatchRun σ) (error : Option EnhanceError) :
    (conclude run error).build.messages =
      run.session.build.messages ++ [(closing error).message] := by
  cases error <;> rfl

theorem failed_conclude (run : BatchRun σ) (error : Option EnhanceError) :
    (conclude run error).report.failed = run.report.failed := by
  cases error <;> rfl

theorem packages_conclude (run : BatchRun σ) (error : Option EnhanceError) :
    (conclude run error).report.packages = run.report.packages := by
  cases error <;> rfl

/-- Every run has a transcript: an opening, remarks on classes, and one remark on its end. -/
theorem exists_transcript (batch : Batch σ) (retention : Retention) (build : BuildState)
    (agent : σ) :
    ∃ said last,
      batch.Utters retention build agent (batch.opening build ++ said ++ [last]) ∧
      (batch.runRetaining retention build agent).build.messages =
        build.messages ++ (batch.opening build ++ said ++ [last]).map Remark.message ∧
      (∀ remark ∈ said, remark.OnClass batch.classes.entries) ∧
      List.Forall₂ (Remark.ReportsFailure batch.classes.entries)
        (batch.runRetaining retention build agent).report.failed
        (said.filter Remark.isError) ∧
      Closes (batch.runRetaining retention build agent).report last := by
  cases created : batch.create build agent with
  | mk ready creation =>
      cases creation with
      | refused error =>
          simp only [runRetaining, created]
          exact ⟨[], _, .refused created, messages_abort_announce ..,
            List.forall_mem_nil _, .nil, .fatal rfl rfl⟩
      | panicked reason =>
          simp only [runRetaining, created]
          exact ⟨[], _, .panicked created, messages_abort_announce ..,
            List.forall_mem_nil _, .nil, .fatal rfl rfl⟩
      | ready transformer =>
          obtain ⟨said, left, run, error, speaks, result⟩ := speaks_end retention created
          have told := told_of_speaks created speaks
          have covered := covered_of_passes ⟨ready, transformer, created, speaks.reaches⟩
          rw [result]
          refine ⟨said, closing error, .ran created speaks, ?_, told.on_class, ?_, ?_⟩
          · have before_last : run.session.build.messages =
                (batch.announce build).messages ++ said.map Remark.message := told.messages_eq
            simp only [messages_conclude, before_last, messages_announce, List.map_append,
              List.append_assoc, List.map_cons, List.map_nil]
          · rw [failed_conclude]
            exact told.failures
          · exact closes_conclude covered

/-- Once there is a transformer, the report has the packages found. -/
theorem packages_run {ready : σ} {transformer : Transformer σ}
    (created : batch.create build agent = (ready, .ready transformer)) :
    (batch.runRetaining retention build agent).report.packages =
      (batch.discovery build).packages := by
  obtain ⟨said, left, run, error, speaks, result⟩ := speaks_end retention created
  rw [result, packages_conclude]
  exact (told_of_speaks created speaks).packages_eq

/-- A run asks its factory for the packages found, and for nothing else. -/
theorem runRetaining_congr (batch : Batch σ) (retention : Retention) (build : BuildState)
    (agent : σ) {factory : TransformerFactory σ}
    (same : factory.create agent batch.config.agent (batch.discovery build).packages =
      batch.create build agent) :
    ({ batch with factory } : Batch σ).runRetaining retention build agent =
      batch.runRetaining retention build agent := by
  have created : ({ batch with factory } : Batch σ).create build agent =
      batch.create build agent := same
  simp only [runRetaining, created]
  rfl

theorem usingPackages_ne_completion (packages : PackageSet) :
    usingPackages packages ≠ completion := by
  intro same
  have shown : (usingPackages packages).text.toList[6]? = some 'Q' := by
    rw [usingPackages, Message.info]
    simp only [String.toList_append]
    rw [List.getElem?_append_left (by decide)]
    decide
  have done : completion.text.toList[6]? = some 'q' := by decide
  rw [same, done] at shown
  cases shown

theorem completion_notMem {said : List Remark} {entries : List (ClassName × FilePath)}
    (on_class : ∀ remark ∈ said, remark.OnClass entries) :
    Remark.ofCompletion ∉ batch.opening build ++ said := by
  intro member
  simp only [opening, List.mem_append, List.mem_map, List.mem_singleton] at member
  rcases member with (⟨message, -, same⟩ | same) | during
  · cases congrArg Remark.writer same
  · exact usingPackages_ne_completion _ (congrArg Remark.message same).symm
  · cases on_class _ during

/-- No error is reported before the first class. -/
theorem filter_opening (batch : Batch σ) (build : BuildState) :
    (batch.opening build).filter Remark.isError = [] := by
  have mild : ∀ message ∈ (batch.discovery build).warnings, message.severity ≠ .error := by
    intro message member
    rw [Discovery.severity_of_mem_warnings member]
    exact nofun
  rw [opening, List.filter_append, Moment.filter_isError_map (fun _ => rfl) mild]
  rfl

/-- The messages of a run agree with its report, whatever the transformer and the file layer.  They
have a transcript whose errors are one for each class that failed, in order, and last the one that
ended the batch, if there is one.  The runner remarks that the batch came to its end at the very
last and exactly when the report tells so.  The packages in force are shown after all warnings of
discovery and before every remark on a class.  They were found in the files as they were before the
run; the factory is asked for them and for nothing else, and the report has them once there is a
transformer. -/
theorem run_output (batch : Batch σ) (retention : Retention) (build : BuildState) (agent : σ) :
    let found := Discovery.ofProject batch.context build.tree batch.config.manifest
    let result := batch.runRetaining retention build agent
    (∃ transcript, batch.Utters retention build agent transcript ∧
      result.build.messages = build.messages ++ transcript.map Remark.message ∧
      (∃ failures,
        transcript.filter Remark.isError =
          failures ++ (result.report.fatal.map Remark.ofFatal).toList ∧
        List.Forall₂ (Remark.ReportsFailure batch.classes.entries) result.report.failed
          failures) ∧
      Remark.ofCompletion ∉ transcript.dropLast ∧
      (transcript.getLast? = some .ofCompletion ↔ result.report.completed = true) ∧
      ∃ later,
        transcript =
          found.warnings.map Remark.ofDiscovery ++ .ofPackages found.packages :: later ∧
        (∀ message ∈ found.warnings, message.severity = .warning) ∧
        (∀ remark ∈ later, remark.writer ≠ .discovery) ∧
        ∀ remark ∈ transcript, remark.subject ≠ none → remark ∈ later) ∧
    (∀ factory : TransformerFactory σ,
      factory.create agent batch.config.agent found.packages =
        batch.factory.create agent batch.config.agent found.packages →
      ({ batch with factory } : Batch σ).runRetaining retention build agent = result) ∧
    ∀ ready transformer,
      batch.factory.create agent batch.config.agent found.packages = (ready, .ready transformer) →
      result.report.packages = found.packages := by
  intro found result
  obtain ⟨said, last, utters, messages_eq, on_class, failures, closes⟩ :=
    batch.exists_transcript retention build agent
  refine ⟨⟨_, utters, messages_eq, ⟨said.filter Remark.isError, ?_, failures⟩, ?_, ?_, ?_⟩,
    fun factory same => batch.runRetaining_congr retention build agent same,
    fun ready transformer created => packages_run created⟩
  · rw [List.filter_append, List.filter_append, filter_opening, List.nil_append,
      closes.filter_isError]
  · rw [List.dropLast_concat]
    exact completion_notMem on_class
  · rw [List.getLast?_concat, Option.some_inj]
    exact closes.eq_ofCompletion_iff
  · refine ⟨said ++ [last], by simp [opening, discovery, found], ?_, ?_, ?_⟩
    · exact fun message => Discovery.severity_of_mem_warnings
    · intro remark member
      rcases List.mem_append.mp member with during | at_end
      · cases on_class remark during <;> exact nofun
      · rw [List.mem_singleton.mp at_end]
        exact closes.writer_ne_discovery
    · intro remark member subject
      rw [List.append_assoc] at member
      rcases List.mem_append.mp member with before | later
      · simp only [opening, List.mem_append, List.mem_map, List.mem_singleton] at before
        rcases before with ⟨message, -, rfl⟩ | rfl <;> exact absurd rfl subject
      · exact later

/-- The pair with a layer that does not write the file of its first class. -/
def refusedPair : Batch MarkingRecord :=
  { pair with
    context := ⟨pair.context.project, FileLayer.access ⟨[], [], [⟨"A.class"⟩]⟩⟩ }

/-- The errors of the pair are the class that is not written, and then the panic. -/
theorem run_output_refused_pair :
    ∃ transcript,
      refusedPair.Utters (.newest 0) (.initial pairTree) .blank transcript ∧
      (transcript.filter Remark.isError).map Remark.message =
        [.failure "Ebean query bean - error writing a.A to A.class: disk full",
          .failure
            "EnhanceError::Panicked:panic during enhancement: scripted panic on a.B[]"] ∧
      Remark.ofCompletion ∉ transcript.dropLast ∧
      transcript.getLast? ≠ some .ofCompletion := by
  obtain ⟨⟨transcript, utters, messages_eq, -, early, last, -⟩, -⟩ :=
    run_output refusedPair (.newest 0) (.initial pairTree) .blank
  refine ⟨transcript, utters, ?_, early, ?_⟩
  · have errors : (transcript.filter Remark.isError).map Remark.message =
        (transcript.map Remark.message).filter fun message => message.severity == .error := by
      rw [List.filter_map]
      rfl
    have added : (refusedPair.runRetaining (.newest 0) (.initial pairTree) .blank).build.messages =
        transcript.map Remark.message := messages_eq
    rw [errors, ← added]
    decide
  · intro same
    have undone : (refusedPair.runRetaining (.newest 0) (.initial pairTree)
        .blank).report.completed = false := by decide
    cases undone.symm.trans (last.mp same)

end Batch
end ClassEnhancement
