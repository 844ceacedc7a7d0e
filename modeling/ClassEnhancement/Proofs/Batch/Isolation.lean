import ClassEnhancement.Proofs.Batch.Verdict

/-!
# Writing problems stay with their class

A file layer that does not know some files, or does not write them, makes a batch report their
classes as failed.  When the transformer answers from the class alone and no two classes share a
file, that is all: compared with the run that meets no fault, every other class is dealt with alike,
the batch ends alike, and only the files of failed classes differ.
-/

namespace ClassEnhancement

/-! ## Files that a layer refuses -/

namespace FileLayer

/-- Whether a layer refuses to find or to write a path. -/
def refuses (layer : FileLayer) (path : FilePath) : Bool :=
  lists layer.withoutHandle path || lists layer.failingWrites path

theorem refuses_plain (path : FilePath) : plain.refuses path = false := rfl

/-- A regular file is overwritten unless it is refused. -/
theorem overwrites_of_denotesFile (layer : FileLayer) {tree : FileTree} {path : FilePath}
    {location : Location} (denotes : tree.DenotesFile path location) :
    layer.overwrites tree path = !layer.refuses path := by
  have present : tree.isFile path = true := (tree.isFile_iff path).mpr ⟨location, denotes⟩
  rw [overwrites, knows, present, refuses, Bool.and_true, Bool.not_or]

end FileLayer

theorem denotesFile_of_replaced {answer : ClassName → Bytes → Outcome} {tree : FileTree}
    {name : ClassName} {file : FilePath} {bytes : Bytes}
    (replaced : verdict answer tree name file = .replaced bytes) :
    ∃ location, tree.DenotesFile file location := by
  rcases Workbench.openClass_cases (.refl tree) name file with
    ⟨error, opened, -⟩ | ⟨location, content, -, located, found, -⟩
  · rw [verdict, opened] at replaced
    cases replaced
  · exact ⟨location, located, content, found⟩

/-! ## Two reports -/

namespace BatchReport

/-- The report of a run with faults splits the classes that the run without faults rewrites. -/
structure Splits (refused : ClassName → Bool) (sound faulty : BatchReport) : Prop where
  /-- The packages are the same. -/
  packages : faulty.packages = sound.packages
  /-- Without faults no class fails. -/
  sound_failed : sound.failed = []
  /-- Rewritten classes that are refused fail. -/
  failed : faulty.failed = sound.transformed.filter refused
  /-- The other ones are rewritten. -/
  transformed : faulty.transformed = sound.transformed.filter fun name => !refused name
  /-- The same classes are declined. -/
  unchanged : faulty.unchanged = sound.unchanged
  /-- The same error ends the runs, or none. -/
  fatal : faulty.fatal = sound.fatal
  /-- Both runs come to their end, or none. -/
  completed : faulty.completed = sound.completed

namespace Splits

variable {refused : ClassName → Bool} {sound faulty : BatchReport}

theorem refl (refused : ClassName → Bool) {report : BatchReport}
    (transformed : report.transformed = []) (failed : report.failed = []) :
    report.Splits refused report where
  packages := rfl
  sound_failed := failed
  failed := by rw [failed, transformed, List.filter_nil]
  transformed := by rw [transformed, List.filter_nil]
  unchanged := rfl
  fatal := rfl
  completed := rfl

theorem declined (splits : sound.Splits refused faulty) (name : ClassName) :
    (sound.addUnchanged name).Splits refused (faulty.addUnchanged name) :=
  { splits with unchanged := by simp only [addUnchanged, splits.unchanged] }

theorem refuse (splits : sound.Splits refused faulty) {name : ClassName}
    (refusal : refused name = true) :
    (sound.addTransformed name).Splits refused (faulty.addFailed name) :=
  { splits with
    failed := by simp [addTransformed, addFailed, splits.failed, refusal]
    transformed := by simp [addTransformed, addFailed, splits.transformed, refusal] }

theorem rewrite (splits : sound.Splits refused faulty) {name : ClassName}
    (accepted : refused name = false) :
    (sound.addTransformed name).Splits refused (faulty.addTransformed name) :=
  { splits with
    failed := by simp [addTransformed, splits.failed, accepted]
    transformed := by simp [addTransformed, splits.transformed, accepted] }

theorem conclude (splits : sound.Splits refused faulty) (error : Option EnhanceError) :
    (sound.conclude error).Splits refused (faulty.conclude error) := by
  obtain ⟨packages, sound_failed, failed, transformed, unchanged, fatal, completed⟩ := splits
  cases error with
  | none => exact ⟨packages, sound_failed, failed, transformed, unchanged, fatal, rfl⟩
  | some error => exact ⟨packages, sound_failed, failed, transformed, unchanged, rfl, completed⟩

theorem processed_eq (splits : sound.Splits refused faulty) :
    faulty.processed = sound.processed := by
  have shared := List.length_eq_length_filter_add (l := sound.transformed) refused
  rw [processed, processed, splits.failed, splits.transformed, splits.unchanged,
    splits.sound_failed, shared, List.length_nil]
  omega

end Splits
end BatchReport

/-! ## Two runs -/

/-- No two classes denote one file. -/
def CompiledSet.DenotesApart (classes : CompiledSet) (tree : FileTree) : Prop :=
  ∀ first ∈ classes.entries, ∀ second ∈ classes.entries, ∀ location,
    tree.DenotesFile first.2 location → tree.DenotesFile second.2 location → first = second

/-- A run with faults beside a run without, once some classes are dealt with. -/
structure Beside (tree : FileTree) (refused : ClassName → Bool)
    (dealt : List (ClassName × FilePath)) (sound faulty : Standing) : Prop where
  /-- Without faults only contents change. -/
  sound_shape : FileTree.SameShape tree sound.tree
  /-- With faults only contents change. -/
  faulty_shape : FileTree.SameShape tree faulty.tree
  /-- The reports differ in the classes that are refused. -/
  report : sound.report.Splits refused faulty.report
  /-- The files differ in the classes that failed. -/
  contents : ∀ location, faulty.tree.lookup? location = sound.tree.lookup? location ∨
    ∃ entry ∈ dealt, entry.1 ∈ faulty.report.failed ∧ tree.DenotesFile entry.2 location

namespace Beside

variable {tree : FileTree} {refused : ClassName → Bool} {dealt : List (ClassName × FilePath)}
  {sound faulty : Standing} {name : ClassName} {file : FilePath}

/-- Files that differ belong to failed classes also when more classes are dealt with. -/
theorem contents_mono (beside : Beside tree refused dealt sound faulty)
    {more : List (ClassName × FilePath)} (listed : dealt ⊆ more) {failed : List ClassName}
    (kept : faulty.report.failed ⊆ failed) (location : Location) :
    faulty.tree.lookup? location = sound.tree.lookup? location ∨
      ∃ entry ∈ more, entry.1 ∈ failed ∧ tree.DenotesFile entry.2 location := by
  rcases beside.contents location with same | ⟨entry, member, fails, denotes⟩
  · exact .inl same
  · exact .inr ⟨entry, listed member, kept fails, denotes⟩

theorem widen (beside : Beside tree refused dealt sound faulty)
    {more : List (ClassName × FilePath)} (listed : dealt ⊆ more) :
    Beside tree refused more sound faulty :=
  { beside with contents := beside.contents_mono listed (List.Subset.refl _) }

/-- A class that is not dealt with yet reads the same in both runs. -/
theorem verdict_eq (beside : Beside tree refused dealt sound faulty)
    (answer : ClassName → Bytes → Outcome)
    (apart : ∀ entry ∈ dealt, ∀ location, tree.DenotesFile entry.2 location →
      ¬ tree.DenotesFile file location) :
    verdict answer faulty.tree name file = verdict answer sound.tree name file := by
  refine ClassEnhancement.verdict_eq (beside.faulty_shape.symm.trans beside.sound_shape) answer name
    fun location denotes => ?_
  rcases beside.contents location with same | ⟨entry, member, -, other⟩
  · exact same
  · exact (apart entry member location other (beside.faulty_shape.symm.denotesFile denotes)).elim

theorem decline (beside : Beside tree refused dealt sound faulty) :
    Beside tree refused (dealt ++ [(name, file)]) ⟨sound.tree, sound.report.addUnchanged name⟩
      ⟨faulty.tree, faulty.report.addUnchanged name⟩ where
  sound_shape := beside.sound_shape
  faulty_shape := beside.faulty_shape
  report := beside.report.declined name
  contents := beside.contents_mono (List.subset_append_left _ _) (List.Subset.refl _)

/-- A class that is refused fails, and its file differs from now on. -/
theorem refuse (beside : Beside tree refused dealt sound faulty) (refusal : refused name = true)
    {location : Location} (denotes : tree.DenotesFile file location) (bytes : Bytes) :
    Beside tree refused (dealt ++ [(name, file)])
      ⟨sound.tree.overwrite file bytes, sound.report.addTransformed name⟩
      ⟨faulty.tree, faulty.report.addFailed name⟩ where
  sound_shape := beside.sound_shape.trans
    ((beside.sound_shape.denotesFile denotes).sameShape_overwrite bytes)
  faulty_shape := beside.faulty_shape
  report := beside.report.refuse refusal
  contents := by
    intro other
    by_cases same : other = location
    · subst same
      exact .inr ⟨(name, file), by simp, by simp [BatchReport.addFailed], denotes⟩
    · rw [(beside.sound_shape.denotesFile denotes).lookup?_overwrite_of_ne same]
      exact beside.contents_mono (List.subset_append_left _ _) (List.subset_append_left _ _) other

/-- A class that is not refused is rewritten in both runs. -/
theorem rewrite (beside : Beside tree refused dealt sound faulty) (accepted : refused name = false)
    {location : Location} (denotes : tree.DenotesFile file location) (bytes : Bytes) :
    Beside tree refused (dealt ++ [(name, file)])
      ⟨sound.tree.overwrite file bytes, sound.report.addTransformed name⟩
      ⟨faulty.tree.overwrite file bytes, faulty.report.addTransformed name⟩ where
  sound_shape := beside.sound_shape.trans
    ((beside.sound_shape.denotesFile denotes).sameShape_overwrite bytes)
  faulty_shape := beside.faulty_shape.trans
    ((beside.faulty_shape.denotesFile denotes).sameShape_overwrite bytes)
  report := beside.report.rewrite accepted
  contents := by
    intro other
    have here := beside.sound_shape.denotesFile denotes
    have there := beside.faulty_shape.denotesFile denotes
    by_cases same : other = location
    · subst same
      rw [here.lookup?_overwrite_self, there.lookup?_overwrite_self]
      exact .inl rfl
    · rw [here.lookup?_overwrite_of_ne same, there.lookup?_overwrite_of_ne same]
      exact beside.contents_mono (List.subset_append_left _ _) (List.Subset.refl _) other

theorem refl (tree : FileTree) (refused : ClassName → Bool) {report : BatchReport}
    (transformed : report.transformed = []) (failed : report.failed = []) :
    Beside tree refused [] ⟨tree, report⟩ ⟨tree, report⟩ :=
  ⟨.refl tree, .refl tree, .refl refused transformed failed, fun _ => .inl rfl⟩

theorem conclude (beside : Beside tree refused dealt sound faulty) (error : Option EnhanceError) :
    Beside tree refused dealt ⟨sound.tree, sound.report.conclude error⟩
      ⟨faulty.tree, faulty.report.conclude error⟩ where
  sound_shape := beside.sound_shape
  faulty_shape := beside.faulty_shape
  report := beside.report.conclude error
  contents := by
    have failed_eq : (faulty.report.conclude error).failed = faulty.report.failed := by
      cases error <;> rfl
    rw [failed_eq]
    exact beside.contents

variable {layer : FileLayer} {answer : ClassName → Bytes → Outcome} {next : Standing}
  {error : Option EnhanceError}

/-- Dealing with one more class keeps the runs beside each other. -/
theorem settle (beside : Beside tree refused dealt sound faulty)
    (refused_eq : refused name = layer.refuses file)
    (apart : ∀ entry ∈ dealt, ∀ location, tree.DenotesFile entry.2 location →
      ¬ tree.DenotesFile file location)
    (settled : sound.settle .plain name file (verdict answer sound.tree name file) =
      (next, error)) :
    ∃ other, faulty.settle layer name file (verdict answer faulty.tree name file) =
        (other, error) ∧ Beside tree refused (dealt ++ [(name, file)]) next other := by
  rw [beside.verdict_eq answer apart]
  cases outcome : verdict answer sound.tree name file with
  | failed | panicked =>
      simp only [outcome, Standing.settle] at settled ⊢
      cases settled
      exact ⟨faulty, rfl, beside.widen (List.subset_append_left _ _)⟩
  | declined =>
      simp only [outcome, Standing.settle] at settled ⊢
      cases settled
      exact ⟨_, rfl, beside.decline⟩
  | replaced bytes =>
      obtain ⟨location, here⟩ := denotesFile_of_replaced outcome
      have denotes := beside.sound_shape.symm.denotesFile here
      have there := beside.faulty_shape.denotesFile denotes
      simp only [outcome, Standing.settle, FileLayer.overwrites_of_denotesFile _ here,
        FileLayer.overwrites_of_denotesFile _ there, FileLayer.refuses_plain, Bool.not_false,
        if_true, ← refused_eq] at settled ⊢
      cases settled
      cases refusal : refused name with
      | true => exact ⟨_, rfl, beside.refuse refusal denotes bytes⟩
      | false => exact ⟨_, rfl, beside.rewrite refusal denotes bytes⟩

/-- Dealing with all other classes keeps the runs beside each other. -/
theorem settleAll {entries : List (ClassName × FilePath)}
    (beside : Beside tree refused dealt sound faulty)
    (refused_eq : ∀ entry ∈ entries, refused entry.1 = layer.refuses entry.2)
    (distinct : (dealt ++ entries).Nodup)
    (apart : ∀ first ∈ dealt ++ entries, ∀ second ∈ dealt ++ entries, ∀ location,
      tree.DenotesFile first.2 location → tree.DenotesFile second.2 location → first = second)
    (settled : sound.settleAll .plain answer entries = (next, error)) :
    ∃ other, faulty.settleAll layer answer entries = (other, error) ∧
      Beside tree refused (dealt ++ entries) next other := by
  induction entries generalizing dealt sound faulty with
  | nil =>
      cases settled
      exact ⟨faulty, rfl, beside.widen (List.subset_append_left _ _)⟩
  | cons entry later induction =>
      obtain ⟨name, file⟩ := entry
      have here : (name, file) ∈ dealt ++ (name, file) :: later := by simp
      have new : ∀ entry ∈ dealt, ∀ location, tree.DenotesFile entry.2 location →
          ¬ tree.DenotesFile file location := by
        intro entry member location denotes shared
        obtain rfl := apart entry (List.mem_append_left _ member) (name, file) here location denotes
          shared
        exact (List.nodup_append'.mp distinct).2.2 member (List.mem_cons_self ..)
      rw [Standing.settleAll] at settled
      rw [List.append_cons] at distinct apart ⊢
      split at settled
      · next middle cause first =>
          cases settled
          obtain ⟨other, settled', beside'⟩ :=
            beside.settle (refused_eq (name, file) (List.mem_cons_self ..)) new first
          refine ⟨other, ?_, beside'.widen (List.subset_append_left _ _)⟩
          rw [Standing.settleAll, settled']
      · next middle first =>
          obtain ⟨other, settled', beside'⟩ :=
            beside.settle (refused_eq (name, file) (List.mem_cons_self ..)) new first
          rw [Standing.settleAll, settled']
          exact induction beside' (fun entry member => refused_eq entry (List.mem_cons_of_mem _ member))
            distinct apart settled

end Beside

namespace Batch

variable {σ : Type}

/-- A batch with another file layer. -/
def withLayer (batch : Batch σ) (layer : FileLayer) : Batch σ :=
  { batch with context := ⟨batch.context.project, layer⟩ }

/-- Whether a layer refuses the file of a class. -/
def refuses (batch : Batch σ) (layer : FileLayer) (name : ClassName) : Bool :=
  (batch.classes.find? name).any layer.refuses

/-- Faults in finding and writing files do not reach the discovery of packages. -/
theorem discovery_withLayer (batch : Batch σ) {layer : FileLayer} (readable : layer.unreadable = [])
    (build : BuildState) :
    (batch.withLayer layer).discovery build = (batch.withLayer .plain).discovery build := by
  refine Discovery.ofProject_congr batch.context.project batch.config.manifest fun manifest _ => ?_
  change layer.read build.tree manifest = FileLayer.plain.read build.tree manifest
  rw [FileLayer.read, FileLayer.read, readable]
  rfl

theorem runs_beside (batch : Batch σ) {layer : FileLayer} (readable : layer.unreadable = [])
    {answer : PackageSet → ClassName → Bytes → Outcome} (answers : batch.factory.AnswersBy answer)
    (retention : Retention) (build : BuildState) (agent : σ)
    (apart : batch.classes.DenotesApart build.tree) :
    Beside build.tree (batch.refuses layer) batch.classes.entries
      ((batch.withLayer .plain).runRetaining retention build agent).standing
      ((batch.withLayer layer).runRetaining retention build agent).standing := by
  have discovered := batch.discovery_withLayer readable build
  have created_eq : (batch.withLayer layer).create build agent =
      (batch.withLayer .plain).create build agent := by
    rw [create, create, discovered]
    rfl
  cases created : (batch.withLayer .plain).create build agent with
  | mk ready creation =>
  rw [created] at created_eq
  cases creation with
  | refused | panicked =>
      simp only [runRetaining, created, created_eq, standing_abort, tree_announce]
      exact (Beside.refl build.tree _ rfl rfl).widen (List.nil_subset _)
  | ready transformer =>
      have answered : transformer.AnswersBy
          (answer ((batch.withLayer .plain).discovery build).packages) :=
        answers _ _ _ _ _ created
      have refused_eq : ∀ entry ∈ batch.classes.entries,
          batch.refuses layer entry.1 = layer.refuses entry.2 := by
        intro entry member
        rw [refuses, OrderedMap.find?_of_mem member]
        rfl
      cases settled : Standing.settleAll .plain
        (answer ((batch.withLayer .plain).discovery build).packages) batch.classes.entries
        ⟨build.tree, { BatchReport.blank with
          packages := ((batch.withLayer .plain).discovery build).packages }⟩ with
      | mk next error =>
      obtain ⟨other, settled', beside⟩ := (Beside.refl build.tree (batch.refuses layer) rfl
        rfl).settleAll refused_eq (.of_map Prod.fst batch.classes.distinct) apart settled
      have sound_standing := run_settles retention rfl created answered settled
      rw [← discovered] at settled' answered
      have faulty_standing := run_settles retention rfl created_eq answered settled'
      rw [sound_standing, faulty_standing]
      exact beside.conclude error

/-- A run whose file layer does not find or write some files differs from the run that meets no
fault in the classes of these files only, when the transformer answers from the class alone and no
two classes denote one file.  Both runs deal with as many classes and end alike.  The classes that
the sound run rewrites split into those whose file is refused, which fail, and the other ones, which
are rewritten.  Every file that is not the file of a failed class ends up the same. -/
theorem isolates_faults (batch : Batch σ) (missing failing : List FilePath)
    {answer : PackageSet → ClassName → Bytes → Outcome} (answers : batch.factory.AnswersBy answer)
    (retention : Retention) (build : BuildState) (agent : σ)
    (apart : batch.classes.DenotesApart build.tree) :
    let layer : FileLayer := ⟨missing, [], failing⟩
    let sound := (batch.withLayer .plain).runRetaining retention build agent
    let faulty := (batch.withLayer layer).runRetaining retention build agent
    faulty.report.processed = sound.report.processed ∧
      sound.report.Splits (batch.refuses layer) faulty.report ∧
      ∀ location, (∀ name file, (name, file) ∈ batch.classes.entries →
          name ∈ faulty.report.failed → build.tree.locate file ≠ .ok location) →
        faulty.build.tree.lookup? location = sound.build.tree.lookup? location := by
  intro layer sound faulty
  have beside : Beside build.tree (batch.refuses layer) batch.classes.entries sound.standing
      faulty.standing :=
    batch.runs_beside rfl answers retention build agent apart
  refine ⟨beside.report.processed_eq, beside.report, fun location untouched => ?_⟩
  rcases beside.contents location with same | ⟨⟨name, file⟩, member, failed, denotes⟩
  · exact same
  · exact (untouched name file member failed denotes.1).elim

theorem denotesApart_pair : pair.classes.DenotesApart pairTree := by
  intro first member second member' location denotes denotes'
  have distinct : ∀ first ∈ pair.classes.entries, ∀ second ∈ pair.classes.entries,
      pairTree.locate first.2 = pairTree.locate second.2 → first = second := by decide
  exact distinct first member second member' (denotes.1.trans denotes'.1.symm)

/-- The first class of the pair fails without its handle, and the second one panics all the same. -/
theorem isolates_faults_pair :
    let sound := (pair.withLayer .plain).runRetaining (.newest 0) (.initial pairTree) .blank
    let faulty := (pair.withLayer ⟨[⟨"A.class"⟩], [], []⟩).runRetaining (.newest 0)
      (.initial pairTree) .blank
    sound.report.Splits (pair.refuses ⟨[⟨"A.class"⟩], [], []⟩) faulty.report ∧
      sound.report.transformed = [markedName] ∧ faulty.report.failed = [markedName] ∧
      faulty.build.tree.lookup? ["B.class"] = sound.build.tree.lookup? ["B.class"] := by
  obtain ⟨-, splits, same⟩ := isolates_faults pair [⟨"A.class"⟩] [] (Marking.factory_answersBy _)
    (.newest 0) (.initial pairTree) .blank denotesApart_pair
  refine ⟨splits, by decide, by decide, same ["B.class"] ?_⟩
  have untouched : ∀ entry ∈ pair.classes.entries, entry.1 = markedName →
      pairTree.locate entry.2 ≠ .ok ["B.class"] := by decide
  have failed_eq : ((pair.withLayer ⟨[⟨"A.class"⟩], [], []⟩).runRetaining (.newest 0)
      (.initial pairTree) .blank).report.failed = [markedName] := by decide
  intro name file member failed
  rw [failed_eq] at failed
  exact untouched (name, file) member (List.mem_singleton.mp failed)

end Batch
end ClassEnhancement
