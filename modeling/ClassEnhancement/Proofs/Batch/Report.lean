import ClassEnhancement.Enhance.Marking
import ClassEnhancement.Proofs.Batch.Moment
import Mathlib.Data.List.Nodup

/-!
# The report of a batch

The three lists of a report account for the classes of a batch: they share out its first classes,
each in order and each class once.  A batch that has its transformer and ends early stops at the
first class that the lists leave out, because that class cannot be opened or read, or because the
transformer fails or panics on it.
-/

namespace ClassEnhancement

namespace BatchReport

/-- The report names a class, in one of its lists. -/
def Names (report : BatchReport) (name : ClassName) : Prop :=
  name ∈ report.transformed ++ report.unchanged ++ report.failed

/-- A report on classes that are dealt with, while the batch goes on. -/
structure Covers (report : BatchReport) (names : List ClassName) : Prop where
  /-- Rewritten classes stand in order. -/
  transformed : report.transformed.Sublist names
  /-- Declined classes stand in order. -/
  unchanged : report.unchanged.Sublist names
  /-- Classes that could not be written stand in order. -/
  failed : report.failed.Sublist names
  /-- Every class is in one list. -/
  shared : (report.transformed ++ report.unchanged ++ report.failed).Perm names
  /-- Nothing has ended the batch. -/
  fatal : report.fatal = none
  /-- The batch has not come to its end. -/
  completed : report.completed = false

/-- One more class in the list between two others is one more class at the end. -/
private theorem shared_last (front back : List ClassName) (name : ClassName)
    {names : List ClassName} (shared : (front ++ back).Perm names) :
    (front ++ [name] ++ back).Perm (names ++ [name]) := by
  have moved : (front ++ [name] ++ back).Perm (front ++ back ++ [name]) := by
    have swapped : ([name] ++ back).Perm (back ++ [name]) := List.perm_append_comm
    simpa only [List.append_assoc] using swapped.append_left front
  exact moved.trans (shared.append_right [name])

namespace Covers

variable {report : BatchReport} {names : List ClassName}

theorem addTransformed (covers : report.Covers names) (name : ClassName) :
    (report.addTransformed name).Covers (names ++ [name]) where
  transformed := covers.transformed.append (.refl _)
  unchanged := List.sublist_append_of_sublist_left covers.unchanged
  failed := List.sublist_append_of_sublist_left covers.failed
  shared := by
    have shared := covers.shared
    rw [List.append_assoc] at shared ⊢
    exact shared_last _ _ name shared
  fatal := covers.fatal
  completed := covers.completed

theorem addUnchanged (covers : report.Covers names) (name : ClassName) :
    (report.addUnchanged name).Covers (names ++ [name]) where
  transformed := List.sublist_append_of_sublist_left covers.transformed
  unchanged := covers.unchanged.append (.refl _)
  failed := List.sublist_append_of_sublist_left covers.failed
  shared := by
    simpa only [BatchReport.addUnchanged, List.append_assoc] using
      shared_last _ _ name covers.shared
  fatal := covers.fatal
  completed := covers.completed

theorem addFailed (covers : report.Covers names) (name : ClassName) :
    (report.addFailed name).Covers (names ++ [name]) where
  transformed := List.sublist_append_of_sublist_left covers.transformed
  unchanged := List.sublist_append_of_sublist_left covers.unchanged
  failed := covers.failed.append (.refl _)
  shared := by
    simpa only [BatchReport.addFailed, List.append_assoc] using
      covers.shared.append_right [name]
  fatal := covers.fatal
  completed := covers.completed

theorem processed_eq (covers : report.Covers names) : report.processed = names.length := by
  simpa only [processed, List.length_append] using covers.shared.length_eq

end Covers

/-- What a finished report says of the classes of a batch, in their order. -/
structure Accounts (report : BatchReport) (order : List ClassName) : Prop where
  /-- No class is rewritten twice. -/
  transformed_nodup : report.transformed.Nodup
  /-- No class is declined twice. -/
  unchanged_nodup : report.unchanged.Nodup
  /-- No class fails twice. -/
  failed_nodup : report.failed.Nodup
  /-- No rewritten class is declined. -/
  transformed_unchanged : report.transformed.Disjoint report.unchanged
  /-- No rewritten class failed to be written. -/
  transformed_failed : report.transformed.Disjoint report.failed
  /-- No declined class failed to be written. -/
  unchanged_failed : report.unchanged.Disjoint report.failed
  /-- Rewritten classes stand in order. -/
  transformed_order : report.transformed.Sublist order
  /-- Declined classes stand in order. -/
  unchanged_order : report.unchanged.Sublist order
  /-- Classes that could not be written stand in order. -/
  failed_order : report.failed.Sublist order
  /-- The lists share out the first classes. -/
  shared : (report.transformed ++ report.unchanged ++ report.failed).Perm
    (order.take report.processed)
  /-- A batch comes to its end unless something ends it early. -/
  completed_iff : report.completed = true ↔ report.fatal = none
  /-- A batch that comes to its end has dealt with every class. -/
  completed_all : report.completed = true → report.processed = order.length

/-- A covering report accounts for the classes once it is known how the batch ended. -/
theorem Covers.accounts {report : BatchReport} {names rest : List ClassName}
    (covers : report.Covers names) (distinct : (names ++ rest).Nodup) {fatal : Option String}
    {completed : Bool} (ended : completed = true ↔ fatal = none)
    (all : completed = true → rest = []) :
    ({ report with fatal, completed } : BatchReport).Accounts (names ++ rest) := by
  have processed_eq : ({ report with fatal, completed } : BatchReport).processed = names.length :=
    covers.processed_eq
  have listed : (report.transformed ++ report.unchanged ++ report.failed).Nodup :=
    covers.shared.nodup_iff.mpr (List.nodup_append'.mp distinct).1
  obtain ⟨front, failed_nodup, front_failed⟩ := List.nodup_append'.mp listed
  obtain ⟨transformed_nodup, unchanged_nodup, transformed_unchanged⟩ :=
    List.nodup_append'.mp front
  rw [List.disjoint_append_left] at front_failed
  exact
    { transformed_nodup, unchanged_nodup, failed_nodup, transformed_unchanged
      transformed_failed := front_failed.1
      unchanged_failed := front_failed.2
      transformed_order := List.sublist_append_of_sublist_left covers.transformed
      unchanged_order := List.sublist_append_of_sublist_left covers.unchanged
      failed_order := List.sublist_append_of_sublist_left covers.failed
      shared := by
        rw [processed_eq, List.take_left']
        · exact covers.shared
        · rfl
      completed_iff := ended
      completed_all := fun done => by
        rw [processed_eq, all done, List.append_nil] }

theorem Covers.accounts_completed {report : BatchReport} {names : List ClassName}
    (covers : report.Covers names) (distinct : names.Nodup) :
    ({ report with completed := true } : BatchReport).Accounts names := by
  have ended : ({ report with completed := true } : BatchReport) =
      { report with fatal := none, completed := true } := by
    rw [← covers.fatal]
  rw [ended, ← List.append_nil names]
  exact covers.accounts (by simpa using distinct) (by simp) (by simp)

theorem Covers.accounts_fatal {report : BatchReport} {names rest : List ClassName}
    (covers : report.Covers names) (distinct : (names ++ rest).Nodup) (text : String) :
    ({ report with fatal := some text } : BatchReport).Accounts (names ++ rest) := by
  have ended : ({ report with fatal := some text } : BatchReport) =
      { report with fatal := some text, completed := false } := by
    rw [← covers.completed]
  rw [ended]
  exact covers.accounts distinct (by simp) (by simp)

theorem covers_nil {report : BatchReport} (transformed : report.transformed = [])
    (unchanged : report.unchanged = []) (failed : report.failed = []) (fatal : report.fatal = none)
    (completed : report.completed = false) : report.Covers [] where
  transformed := by rw [transformed]
  unchanged := by rw [unchanged]
  failed := by rw [failed]
  shared := by rw [transformed, unchanged, failed]; exact .nil
  fatal
  completed

end BatchReport

namespace Moment

variable {σ : Type} {bench : Workbench} {transformer : Transformer σ}

/-- The report covers the classes that are dealt with. -/
def Covered (entries : List (ClassName × FilePath)) (moment : Moment σ) : Prop :=
  ∃ dealt, entries = dealt ++ moment.left ∧ moment.report.Covers (dealt.map Prod.fst)

theorem writtenBack_covers {context : BuildContext} {task : Task} {bytes : Bytes}
    {session : Session} {agent : σ} {names : List ClassName}
    (covers : task.report.Covers names) :
    (writtenBack context task bytes session agent).report.Covers (names ++ [task.name]) := by
  unfold writtenBack Batch.writeBack
  split
  · exact covers.addFailed task.name
  · split
    · exact covers.addTransformed task.name
    · exact covers.addFailed task.name

/-- The next moment has dealt with the class at hand, or with no further class. -/
theorem covered_of_next {entries : List (ClassName × FilePath)} {before after : Moment σ}
    (step : Next bench transformer before after) (covered : before.Covered entries) :
    after.Covered entries := by
  obtain ⟨dealt, split, covers⟩ := covered
  cases step with
  | decline task agent session =>
      refine ⟨dealt ++ [(task.name, task.file)], by simpa [left] using split, ?_⟩
      rw [List.map_append]
      exact covers.addUnchanged task.name
  | replace task agent bytes session =>
      refine ⟨dealt ++ [(task.name, task.file)], by simpa [left] using split, ?_⟩
      rw [List.map_append]
      exact writtenBack_covers covers
  | _ => exact ⟨dealt, split, covers⟩

/-- A class that ends a batch: it cannot be opened or read, or the transformer fails or panics. -/
inductive FailsOn : Moment σ → ClassName → FilePath → EnhanceError → Prop
  /-- The class cannot be opened or read. -/
  | opening {name : ClassName} {file : FilePath} {later : List (ClassName × FilePath)}
      {run : BatchRun σ} {error : TransformError}
      (opened : Workbench.openClass run.session.build.tree name file = .error error) :
      FailsOn (between ((name, file) :: later) run) name file (.transform error)
  /-- The transformer fails. -/
  | failing (task : Task) (agent : σ) (error : TransformError) (session : Session) :
      FailsOn (within task (.finish agent (.failed error)) session) task.name task.file
        (.transform error)
  /-- The transformer panics. -/
  | panicking (task : Task) (agent : σ) (reason : String) (session : Session) :
      FailsOn (within task (.finish agent (.panicked reason)) session) task.name task.file
        (.panicked reason)

/-- A batch ends with no class left, or at a class that fails. -/
theorem ended_of_next {before : Moment σ} {left : List (ClassName × FilePath)} {run : BatchRun σ}
    {error : Option EnhanceError} (step : Next bench transformer before (.ended left run error)) :
    (left = [] ∧ error = none) ∨
      ∃ name file later cause, left = (name, file) :: later ∧ error = some cause ∧
        before.FailsOn name file cause := by
  cases step with
  | finish => exact .inl ⟨rfl, rfl⟩
  | unreadable opened => exact .inr ⟨_, _, _, _, rfl, rfl, .opening opened⟩
  | fail task agent error session => exact .inr ⟨_, _, _, _, rfl, rfl, .failing ..⟩
  | panic task agent reason session => exact .inr ⟨_, _, _, _, rfl, rfl, .panicking ..⟩

end Moment

namespace Batch

variable {σ : Type}

/-- How a batch that has its transformer is ended early: at a position of its classes, with a
text. -/
structure StopsAt (batch : Batch σ) (retention : Retention) (build : BuildState) (agent : σ)
    (position : Nat) (text : String) : Prop where
  /-- Some class is not dealt with. -/
  position_lt : position < batch.classes.size
  /-- The first such class fails, and the text reports it. -/
  failing : ∃ name file moment error, batch.classes.entries[position]? = some (name, file) ∧
    batch.Passes retention build agent moment ∧ moment.FailsOn name file error ∧
    text = error.report
  /-- No class after it is handed to the transformer. -/
  handed : ∀ task work session, batch.Passes retention build agent (.within task work session) →
    task.name ∈ batch.classes.keys.take (position + 1)

variable {batch : Batch σ} {retention : Retention} {build : BuildState} {agent : σ}

/-- At every moment the report covers the classes that are dealt with. -/
theorem covered_of_passes {moment : Moment σ} (passes : batch.Passes retention build agent moment) :
    moment.Covered batch.classes.entries := by
  refine passes.induction (fun ready transformer _ => ?_) fun _ _ _ _ _ _ step covered =>
    Moment.covered_of_next step covered
  exact ⟨[], rfl, BatchReport.covers_nil rfl rfl rfl rfl rfl⟩

/-- A moment with a class at hand comes before an end at a class no earlier. -/
theorem handed_of_passes {left : List (ClassName × FilePath)} {run : BatchRun σ}
    {error : Option EnhanceError}
    (ended : batch.Passes retention build agent (.ended left run error)) {task : Task}
    {work : Work σ} {session : Session}
    (within : batch.Passes retention build agent (.within task work session)) :
    task.name ∈ batch.classes.keys.take (run.report.processed + 1) := by
  obtain ⟨dealt, split, covers⟩ := covered_of_passes ended
  obtain ⟨before, within_split, -⟩ := covered_of_passes within
  obtain ⟨transformer, reach⟩ := passes_reaches_end within ended
  have suffix : left <:+ (task.name, task.file) :: task.later :=
    Moment.left_suffix_of_reaches reach
  have left_length := suffix.length_le
  have processed_eq : run.report.processed = dealt.length := by
    simpa [Moment.report] using covers.processed_eq
  have lengths : dealt.length + left.length = before.length + (task.later.length + 1) := by
    simpa [Moment.left] using congrArg List.length (split.symm.trans within_split)
  have before_length : before.length < run.report.processed + 1 := by
    simp only [List.length_cons] at left_length
    omega
  have taken : batch.classes.keys[before.length]? = some task.name := by
    simp [OrderedMap.keys, within_split, Moment.left]
  rw [← List.getElem?_take_of_lt before_length] at taken
  exact List.mem_of_getElem? taken

theorem passes_before_end {left : List (ClassName × FilePath)} {run : BatchRun σ}
    {error : Option EnhanceError}
    (passes : batch.Passes retention build agent (.ended left run error)) :
    ∃ transformer before, batch.Passes retention build agent before ∧
      Moment.Next (batch.bench retention) transformer before (.ended left run error) := by
  obtain ⟨ready, transformer, created, reach⟩ := passes
  rcases reach.cases_tail with same | ⟨before, earlier, step⟩
  · cases same
  · exact ⟨transformer, before, ⟨ready, transformer, created, earlier⟩, step⟩

theorem accounts_of_passes_end {left : List (ClassName × FilePath)} {run : BatchRun σ}
    {error : Option EnhanceError}
    (passes : batch.Passes retention build agent (.ended left run error)) :
    (conclude run error).report.Accounts batch.classes.keys := by
  obtain ⟨dealt, split, covers⟩ := covered_of_passes passes
  obtain ⟨transformer, before, -, step⟩ := passes_before_end passes
  have distinct : batch.classes.keys.Nodup := batch.classes.distinct
  have keys_eq : batch.classes.keys = dealt.map Prod.fst ++ left.map Prod.fst := by
    simp [OrderedMap.keys, split, Moment.left]
  rw [keys_eq] at distinct ⊢
  rcases Moment.ended_of_next step with ⟨rfl, rfl⟩ | ⟨name, file, later, cause, -, rfl, -⟩
  · rw [List.map_nil, List.append_nil] at distinct ⊢
    exact covers.accounts_completed distinct
  · exact covers.accounts_fatal distinct cause.report

/-- A batch that is ended early stops at the first class that its report leaves out. -/
theorem stopsAt_of_passes_end {left : List (ClassName × FilePath)} {run : BatchRun σ}
    {error : EnhanceError}
    (passes : batch.Passes retention build agent (.ended left run (some error))) :
    batch.StopsAt retention build agent run.report.processed error.report := by
  obtain ⟨dealt, split, covers⟩ := covered_of_passes passes
  obtain ⟨transformer, before, before_passes, step⟩ := passes_before_end passes
  have processed_eq : run.report.processed = dealt.length := by
    simpa [Moment.report] using covers.processed_eq
  rcases Moment.ended_of_next step with ⟨-, none_eq⟩ | ⟨name, file, later, cause, rfl, same, failing⟩
  · cases none_eq
  · obtain rfl : error = cause := Option.some.inj same
    refine ⟨?_, ⟨name, file, before, error, ?_, before_passes, failing, rfl⟩, ?_⟩
    · simp [OrderedMap.size, split, processed_eq, Moment.left]
    · simp [split, processed_eq, Moment.left]
    · intro task work session within
      exact handed_of_passes passes within

/-- The report of a batch shares out its first classes.  If the batch has its transformer and is
ended early, it stops at the class after them. -/
theorem report_accounts (batch : Batch σ) (retention : Retention) (build : BuildState)
    (agent : σ) :
    (batch.runRetaining retention build agent).report.Accounts batch.classes.keys ∧
      ∀ ready transformer text, batch.create build agent = (ready, .ready transformer) →
        (batch.runRetaining retention build agent).report.fatal = some text →
        batch.StopsAt retention build agent
          (batch.runRetaining retention build agent).report.processed text := by
  have blank_covers : BatchReport.blank.Covers [] := BatchReport.covers_nil rfl rfl rfl rfl rfl
  cases created : batch.create build agent with
  | mk ready creation =>
      cases creation with
      | refused error =>
          simp only [runRetaining, created]
          exact ⟨blank_covers.accounts_fatal batch.classes.distinct error.report, by simp⟩
      | panicked reason =>
          simp only [runRetaining, created]
          exact ⟨blank_covers.accounts_fatal batch.classes.distinct
            (EnhanceError.panicked reason).report, by simp⟩
      | ready transformer =>
          obtain ⟨left, run, error, passes, result⟩ := passes_end retention created
          rw [result]
          refine ⟨accounts_of_passes_end passes, fun _ _ text _ fatal => ?_⟩
          cases error with
          | none =>
              obtain ⟨dealt, -, covers⟩ := covered_of_passes passes
              cases covers.fatal.symm.trans fatal
          | some error =>
              obtain rfl : error.report = text := Option.some.inj fatal
              exact stopsAt_of_passes_end passes

/-! ## Batches that come to their end -/

/-- A batch that ends names all classes, unless it is ended early. -/
theorem names_all_of_passes_end {left : List (ClassName × FilePath)} {run : BatchRun σ}
    {error : Option EnhanceError}
    (passes : batch.Passes retention build agent (.ended left run error)) :
    (conclude run error).report.fatal = none ↔
      ∀ name ∈ batch.classes.keys, (conclude run error).report.Names name := by
  obtain ⟨dealt, split, covers⟩ := covered_of_passes passes
  obtain ⟨transformer, before, -, step⟩ := passes_before_end passes
  have distinct : batch.classes.keys.Nodup := batch.classes.distinct
  have keys_eq : batch.classes.keys = dealt.map Prod.fst ++ left.map Prod.fst := by
    simp [OrderedMap.keys, split, Moment.left]
  rw [keys_eq] at distinct ⊢
  rcases Moment.ended_of_next step with ⟨rfl, rfl⟩ | ⟨name, file, later, cause, rfl, rfl, -⟩
  · refine ⟨fun _ name member => covers.shared.mem_iff.mpr ?_, fun _ => covers.fatal⟩
    simpa using member
  · refine ⟨fun going => absurd going (Option.some_ne_none _), fun all => ?_⟩
    have dealt_with := covers.shared.mem_iff.mp (all name (by simp))
    have apart := (List.nodup_append'.mp distinct).2.2
    exact (apart dealt_with (by simp)).elim

/-- A batch of some classes is not ended early when its report names all of them, and only then. -/
theorem fatal_eq_none_iff (some_class : batch.classes.keys ≠ []) :
    (batch.runRetaining retention build agent).report.fatal = none ↔
      ∀ name ∈ batch.classes.keys,
        (batch.runRetaining retention build agent).report.Names name := by
  obtain ⟨first, later, split⟩ := List.exists_cons_of_ne_nil some_class
  -- Without a transformer the report names no class, and there is the first one.
  have unnamed : ∀ text : String, ({ BatchReport.blank with fatal := some text } :
      BatchReport).fatal = none ↔ ∀ name ∈ batch.classes.keys,
        ({ BatchReport.blank with fatal := some text } : BatchReport).Names name := by
    intro text
    refine ⟨nofun, fun all => ?_⟩
    cases all first (by simp [split])
  cases created : batch.create build agent with
  | mk ready creation =>
      cases creation with
      | refused error =>
          simp only [runRetaining, created]
          exact unnamed error.report
      | panicked reason =>
          simp only [runRetaining, created]
          exact unnamed (EnhanceError.panicked reason).report
      | ready transformer =>
          obtain ⟨left, run, error, passes, result⟩ := passes_end retention created
          rw [result]
          exact names_all_of_passes_end passes

/-! ## A batch that panics -/

/-- The class that the pair marks. -/
def markedName : ClassName := ⟨["a", "A"], by decide, by decide⟩

/-- The class that the pair panics on. -/
def panickingName : ClassName := ⟨["a", "B"], by decide, by decide⟩

/-- The files of the pair, with a list of packages. -/
def pairTree : FileTree :=
  (((FileTree.empty []).put ["A.class"] (.file [1])).put ["B.class"] (.file [2])).put
    ["ebean-typequery.mf"] (.file (Utf8.encode "a"))

/-- A batch of two classes that marks the first one and panics on the second one. -/
def pair : Batch MarkingRecord where
  context := ⟨⟨"pair", ⟨"/"⟩, [], ⟨[], [⟨"ebean-typequery.mf"⟩]⟩⟩, FileLayer.plain⟩
  classes := .ofList [(markedName, ⟨"A.class"⟩), (panickingName, ⟨"B.class"⟩)]
  factory := Marking.factory ⟨false, [], [panickingName.dotted], false⟩
  config := .standard

/-- The pair stops at its second class. -/
theorem report_accounts_pair :
    (pair.runRetaining (.newest 0) (.initial pairTree) .blank).report.Accounts pair.classes.keys ∧
      pair.StopsAt (.newest 0) (.initial pairTree) .blank 1
        "EnhanceError::Panicked:panic during enhancement: scripted panic on a.B[]" := by
  obtain ⟨accounts, stops⟩ := report_accounts pair (.newest 0) (.initial pairTree) .blank
  exact ⟨accounts, stops _ _ _ rfl (by decide)⟩

end Batch
end ClassEnhancement
