import ClassEnhancement.Proofs.Batch.Report
import ClassEnhancement.Proofs.FileTree.Overwrite

/-!
# What a batch does to files

A batch whose transformer touches files only through the build overwrites the files of the classes
that it reports as rewritten, in order and with the bytes that the transformer returned for them.
It changes nothing else, also when it is ended early.
-/

namespace ClassEnhancement

/-! ## Files that a layer overwrites -/

namespace FileLayer

/-- Whether the layer knows a file and does not refuse to write it. -/
def overwrites (layer : FileLayer) (tree : FileTree) (path : FilePath) : Bool :=
  layer.knows tree path && !lists layer.failingWrites path

theorem overwrites_eq (layer : FileLayer) {left right : FileTree}
    (same : FileTree.SameShape left right) (path : FilePath) :
    layer.overwrites left path = layer.overwrites right path := by
  rw [overwrites, overwrites, knows, knows, same.isFile_eq]

theorem denotesFile_of_knows {layer : FileLayer} {tree : FileTree} {path : FilePath}
    (known : layer.knows tree path = true) : ∃ location, tree.DenotesFile path location := by
  rw [knows, Bool.and_eq_true] at known
  exact (tree.isFile_iff path).mp known.2

theorem denotesFile_of_overwrites {layer : FileLayer} {tree : FileTree} {path : FilePath}
    (overwritten : layer.overwrites tree path = true) :
    ∃ location, tree.DenotesFile path location := by
  rw [overwrites, Bool.and_eq_true] at overwritten
  exact denotesFile_of_knows overwritten.1

end FileLayer

/-- New bytes for the file of a class. -/
structure Rewrite where
  /-- The class. -/
  name : ClassName
  /-- Its file. -/
  file : FilePath
  /-- The new bytes. -/
  bytes : Bytes

namespace Rewrite

/-- The class with its file. -/
def entry (rewrite : Rewrite) : ClassName × FilePath := (rewrite.name, rewrite.file)

/-- The change to files. -/
def change (rewrite : Rewrite) : FilePath × Bytes := (rewrite.file, rewrite.bytes)

end Rewrite

/-- The transformer is done with a class, and the batch goes on. -/
def Outcome.Settles : Outcome → Prop
  | .declined | .replaced _ => True
  | .failed _ | .panicked _ => False

/-- Work that changes files only through the build: what it does behind its back changes nothing. -/
def Work.LeavesFiles {σ : Type} : Work σ → Prop
  | .finish _ _ => True
  | .log _ next => next.LeavesFiles
  | .load _ next => ∀ answer, (next answer).LeavesFiles
  | .touch change next => (∀ tree, change tree = tree) ∧ ∀ tree, (next tree).LeavesFiles

/-- A factory whose transformers change files only through the build. -/
def TransformerFactory.LeavesFiles {σ : Type} (factory : TransformerFactory σ) : Prop :=
  ∀ agent options packages ready transformer,
    factory.create agent options packages = (ready, .ready transformer) →
    ∀ state name bytes, (transformer.transform state name bytes).LeavesFiles

theorem Work.StaysInside.leavesFiles {σ : Type} {work : Work σ} (inside : work.StaysInside) :
    work.LeavesFiles := by
  induction work with
  | finish => trivial
  | log _ _ hypothesis => exact hypothesis inside
  | load _ _ hypothesis => exact fun answer => hypothesis answer (inside answer)
  | touch => exact inside.elim

theorem TransformerFactory.StaysInside.leavesFiles {σ : Type} {factory : TransformerFactory σ}
    (inside : factory.StaysInside) : factory.LeavesFiles :=
  fun agent options packages ready transformer created state name bytes =>
    (inside agent options packages ready transformer created state name bytes).leavesFiles

/-- Work under way changes files only through the build. -/
def Moment.LeavesFiles {σ : Type} : Moment σ → Prop
  | .within _ work _ => work.LeavesFiles
  | _ => True

namespace Batch

variable {σ : Type} {batch : Batch σ} {retention : Retention} {build : BuildState} {agent : σ}

/-! ## New bytes that a transformer returns -/

theorem left_of_settled {bench : Workbench} {transformer : Transformer σ} {task : Task} {state : σ}
    {outcome : Outcome} {session : Session} {next : Moment σ} (settled : outcome.Settles)
    (step : Moment.Next bench transformer (.within task (.finish state outcome) session) next) :
    next.left = task.later := by
  cases step with
  | fail | panic => exact settled.elim
  | decline | replace => rfl

/-- A class that is settled is not left later. -/
theorem not_left_of_settled {bench : Workbench} {transformer : Transformer σ} {task : Task}
    {state : σ} {outcome : Outcome} {session : Session} {after : Moment σ}
    (passes : batch.Passes retention build agent (.within task (.finish state outcome) session))
    (reach : Moment.Reaches bench transformer (.within task (.finish state outcome) session)
      after) (settled : outcome.Settles) :
    after = .within task (.finish state outcome) session ∨
      task.name ∉ after.left.map Prod.fst := by
  rcases reach.cases_head with same | ⟨next, step, rest⟩
  · exact .inl same.symm
  · obtain ⟨dealt, split, -⟩ := covered_of_passes passes
    have suffix := Moment.left_suffix_of_reaches rest
    rw [left_of_settled settled step] at suffix
    have distinct := batch.classes.distinct
    rw [split, Moment.left, List.map_append, List.map_cons] at distinct
    have absent := (List.nodup_cons.mp (List.nodup_append'.mp distinct).2.1).1
    exact .inr fun member => absent ((List.map_subset Prod.fst suffix.subset) member)

/-- A class is settled at one moment only. -/
theorem settled_unique {first second : Task} {state state' : σ} {outcome outcome' : Outcome}
    {session session' : Session}
    (passes : batch.Passes retention build agent (.within first (.finish state outcome) session))
    (passes' : batch.Passes retention build agent
      (.within second (.finish state' outcome') session'))
    (settled : outcome.Settles) (settled' : outcome'.Settles)
    (same : first.name = second.name) : first = second ∧ outcome = outcome' := by
  obtain ⟨transformer, later | earlier⟩ := passes_total passes passes'
  · rcases not_left_of_settled passes later settled with equal | absent
    · cases equal
      exact ⟨rfl, rfl⟩
    · exact (absent (by simp [Moment.left, same])).elim
  · rcases not_left_of_settled passes' earlier settled' with equal | absent
    · cases equal
      exact ⟨rfl, rfl⟩
    · exact (absent (by simp [Moment.left, same])).elim

/-- The transformer returns new bytes for a class. -/
def Returns (batch : Batch σ) (retention : Retention) (build : BuildState) (agent : σ)
    (rewrite : Rewrite) : Prop :=
  ∃ task state session, batch.Passes retention build agent
      (.within task (.finish state (.replaced rewrite.bytes)) session) ∧
    task.name = rewrite.name ∧ task.file = rewrite.file

theorem Returns.unique {first second : Rewrite}
    (returns : batch.Returns retention build agent first)
    (returns' : batch.Returns retention build agent second) (same : first.name = second.name) :
    first = second := by
  obtain ⟨task, state, session, passes, name_eq, file_eq⟩ := returns
  obtain ⟨task', state', session', passes', name_eq', file_eq'⟩ := returns'
  obtain ⟨rfl, outcome_eq⟩ := settled_unique passes passes' trivial trivial
    (name_eq.trans (same.trans name_eq'.symm))
  obtain ⟨name, file, bytes⟩ := first
  obtain ⟨name', file', bytes'⟩ := second
  obtain rfl : bytes = bytes' := Outcome.replaced.inj outcome_eq
  cases name_eq
  cases file_eq
  cases name_eq'
  cases file_eq'
  rfl

theorem Returns.not_declined {rewrite : Rewrite} {task : Task} {state : σ} {session : Session}
    (returns : batch.Returns retention build agent rewrite)
    (declines : batch.Passes retention build agent
      (.within task (.finish state .declined) session)) : rewrite.name ≠ task.name := by
  obtain ⟨task', state', session', passes', name_eq, -⟩ := returns
  intro same
  have outcomes := (settled_unique passes' declines trivial trivial (name_eq.trans same)).2
  cases outcomes

/-! ## The effect on files -/

/-- Rewrites account for the files and for the classes reported as rewritten. -/
structure Effect (batch : Batch σ) (layer : FileLayer) (retention : Retention)
    (build : BuildState) (agent : σ) (rewrites : List Rewrite)
    (dealt : List (ClassName × FilePath)) (tree : FileTree) (report : BatchReport) : Prop where
  /-- Files are rewritten in the order of the classes. -/
  order : (rewrites.map Rewrite.entry).Sublist dealt
  /-- Exactly the classes reported as rewritten are. -/
  transformed : rewrites.map Rewrite.name = report.transformed
  /-- A class dealt with is rewritten when the transformer returns bytes that the layer writes. -/
  chosen : ∀ rewrite, rewrite ∈ rewrites ↔
    rewrite.entry ∈ dealt ∧ batch.Returns retention build agent rewrite ∧
      layer.overwrites build.tree rewrite.file = true
  /-- Nothing else happened. -/
  tree_eq : tree = build.tree.overwriteAll (rewrites.map Rewrite.change)

namespace Effect

variable {layer : FileLayer} {rewrites : List Rewrite} {dealt : List (ClassName × FilePath)}
  {tree : FileTree} {report : BatchReport}

theorem denoted (effect : batch.Effect layer retention build agent rewrites dealt tree report) :
    build.tree.AllDenoteFiles (rewrites.map Rewrite.change) := by
  intro change member
  obtain ⟨rewrite, rewritten, rfl⟩ := List.mem_map.mp member
  exact FileLayer.denotesFile_of_overwrites ((effect.chosen rewrite).mp rewritten).2.2

theorem sameShape (effect : batch.Effect layer retention build agent rewrites dealt tree report) :
    FileTree.SameShape build.tree tree := by
  rw [effect.tree_eq]
  exact effect.denoted.sameShape

/-- A location holds what was written to it last, or what it held before. -/
theorem lookup?_eq (effect : batch.Effect layer retention build agent rewrites dealt tree report)
    (location : Location) :
    tree.lookup? location =
      match build.tree.lastWritten? (rewrites.map Rewrite.change) location with
      | some bytes => some (.file bytes)
      | none => build.tree.lookup? location := by
  rw [effect.tree_eq]
  exact effect.denoted.lookup?_overwriteAll location

theorem lookup?_untouched
    (effect : batch.Effect layer retention build agent rewrites dealt tree report)
    {location : Location}
    (untouched : ∀ name file, (name, file) ∈ dealt → name ∈ report.transformed →
      build.tree.locate file ≠ .ok location) :
    tree.lookup? location = build.tree.lookup? location := by
  have unwritten : build.tree.lastWritten? (rewrites.map Rewrite.change) location = none := by
    rw [FileTree.lastWritten?, Option.map_eq_none_iff, List.find?_eq_none]
    intro change member
    obtain ⟨rewrite, rewritten, rfl⟩ := List.mem_map.mp (List.mem_reverse.mp member)
    have transformed : rewrite.name ∈ report.transformed := by
      rw [← effect.transformed]
      exact List.mem_map_of_mem rewritten
    have listed := ((effect.chosen rewrite).mp rewritten).1
    exact fun denoted =>
      untouched rewrite.name rewrite.file listed transformed (of_decide_eq_true denoted)
  rw [effect.lookup?_eq, unwritten]

theorem nothing (transformed : report.transformed = []) :
    batch.Effect layer retention build agent [] [] build.tree report where
  order := .slnil
  transformed := transformed.symm
  chosen := by simp
  tree_eq := rfl

/-- Classes that are not rewritten have no effect. -/
theorem widen (effect : batch.Effect layer retention build agent rewrites dealt tree report)
    {all : List (ClassName × FilePath)} (front : dealt.Sublist all)
    (kept : ∀ rewrite : Rewrite, rewrite.entry ∈ all →
      batch.Returns retention build agent rewrite →
      layer.overwrites build.tree rewrite.file = true → rewrite.entry ∈ dealt)
    {later : BatchReport} (same : later.transformed = report.transformed) :
    batch.Effect layer retention build agent rewrites all tree later where
  order := effect.order.trans front
  transformed := effect.transformed.trans same.symm
  chosen := by
    intro rewrite
    rw [effect.chosen]
    constructor
    · rintro ⟨member, rest⟩
      exact ⟨front.subset member, rest⟩
    · rintro ⟨member, returns, overwritten⟩
      exact ⟨kept rewrite member returns overwritten, returns, overwritten⟩
  tree_eq := effect.tree_eq

theorem skip (effect : batch.Effect layer retention build agent rewrites dealt tree report)
    {entry : ClassName × FilePath} {later : BatchReport}
    (same : later.transformed = report.transformed)
    (kept : ∀ rewrite : Rewrite, rewrite.entry = entry →
      batch.Returns retention build agent rewrite →
      layer.overwrites build.tree rewrite.file = false) :
    batch.Effect layer retention build agent rewrites (dealt ++ [entry]) tree later := by
  refine effect.widen (List.sublist_append_left _ _) ?_ same
  intro rewrite member returns overwritten
  rcases List.mem_append.mp member with earlier | last
  · exact earlier
  · have refused := kept rewrite (List.mem_singleton.mp last) returns
    cases overwritten.symm.trans refused

/-- A class that is rewritten has its file overwritten. -/
theorem rewrite (effect : batch.Effect layer retention build agent rewrites dealt tree report)
    {rewrite : Rewrite} (returns : batch.Returns retention build agent rewrite)
    (overwritten : layer.overwrites tree rewrite.file = true) :
    batch.Effect layer retention build agent (rewrites ++ [rewrite]) (dealt ++ [rewrite.entry])
      (tree.overwrite rewrite.file rewrite.bytes) (report.addTransformed rewrite.name) where
  order := by
    rw [List.map_append]
    exact effect.order.append (.refl _)
  transformed := by
    rw [List.map_append, effect.transformed]
    rfl
  chosen := by
    intro other
    rw [List.mem_append, List.mem_append, List.mem_singleton, List.mem_singleton, effect.chosen]
    constructor
    · rintro (⟨member, rest⟩ | rfl)
      · exact ⟨.inl member, rest⟩
      · rw [← layer.overwrites_eq effect.sameShape] at overwritten
        exact ⟨.inr rfl, returns, overwritten⟩
    · rintro ⟨member | same, rest⟩
      · exact .inl ⟨member, rest⟩
      · exact .inr (rest.1.unique returns (congrArg Prod.fst same))
  tree_eq := by
    rw [List.map_append, List.map_singleton, FileTree.overwriteAll_append_singleton,
      ← effect.tree_eq]
    rfl

end Effect

/-! ## Moments -/

/-- Writing back reports a failure, or overwrites the file of the class. -/
theorem writeBack_cases {context : BuildContext} {layer : FileLayer}
    (access_eq : context.layer = layer.access) (name : ClassName) (file : FilePath)
    (bytes : Bytes) (build : BuildState) (report : BatchReport) :
    (layer.overwrites build.tree file = false ∧ ∃ messages,
        writeBack context name file bytes build report =
          (build.report messages, report.addFailed name)) ∨
      (layer.overwrites build.tree file = true ∧
        writeBack context name file bytes build report =
          ({ build with
              tree := build.tree.overwrite file bytes, written := build.written ++ [file] },
            report.addTransformed name)) := by
  simp only [writeBack, access_eq, FileLayer.access, FileLayer.overwrites]
  by_cases known : layer.knows build.tree file = true
  · obtain ⟨location, denotes⟩ := FileLayer.denotesFile_of_knows known
    simp only [known, if_true, FileLayer.write]
    by_cases refused : FileLayer.lists layer.failingWrites file = true
    · refine .inl ⟨by simp [refused], [cannotWrite name file (.reported "disk full")], ?_⟩
      simp only [refused, if_true]
    · refine .inr ⟨by simp [refused], ?_⟩
      simp only [refused, denotes.write_eq]
      rfl
  · refine .inl ⟨by simp [known], [fileNotFound name], ?_⟩
    simp only [known]
    rfl

/-- Work under way changes files only through the build when all work does. -/
theorem leavesFiles_of_passes (leaves : batch.factory.LeavesFiles) {moment : Moment σ}
    (passes : batch.Passes retention build agent moment) : moment.LeavesFiles := by
  refine passes.induction (fun _ _ _ => trivial) ?_
  intro ready transformer before after created _ step held
  cases step with
  | hand => exact leaves _ _ _ _ _ created _ _ _
  | log => exact held
  | load task classPath next session => exact held _
  | touch => exact held.2 _
  | _ => trivial

/-- Rewrites account for the files at a moment. -/
def Accounted (batch : Batch σ) (layer : FileLayer) (retention : Retention) (build : BuildState)
    (agent : σ) (moment : Moment σ) : Prop :=
  ∃ rewrites dealt, batch.classes.entries = dealt ++ moment.left ∧
    batch.Effect layer retention build agent rewrites dealt moment.tree moment.report

/-- At every moment rewrites account for the files. -/
theorem accounted_of_passes {layer : FileLayer} (access_eq : batch.context.layer = layer.access)
    (leaves : batch.factory.LeavesFiles) {moment : Moment σ}
    (passes : batch.Passes retention build agent moment) :
    batch.Accounted layer retention build agent moment := by
  refine passes.induction (fun _ _ _ => ⟨[], [], rfl, .nothing rfl⟩) ?_
  intro ready transformer before after created before_passes step held
  obtain ⟨rewrites, dealt, split, effect⟩ := held
  cases step with
  | decline task state session =>
      refine ⟨rewrites, dealt ++ [(task.name, task.file)], by simpa [Moment.left] using split,
        effect.skip rfl ?_⟩
      intro rewrite same returns
      exact (returns.not_declined before_passes (congrArg Prod.fst same)).elim
  | replace task state bytes session =>
      have split_after : batch.classes.entries =
          (dealt ++ [(task.name, task.file)]) ++ task.later := by
        simpa [Moment.left] using split
      have returns : batch.Returns retention build agent ⟨task.name, task.file, bytes⟩ :=
        ⟨task, state, session, before_passes, rfl, rfl⟩
      rcases writeBack_cases access_eq task.name task.file bytes session.build task.report with
        ⟨refused, messages, written⟩ | ⟨overwritten, written⟩
      · refine ⟨rewrites, dealt ++ [(task.name, task.file)], split_after, ?_⟩
        simp only [Moment.tree, Moment.session, Moment.report, Moment.writtenBack, bench, written]
        refine effect.skip rfl fun rewrite same _ => ?_
        have file_eq : rewrite.file = task.file := congrArg Prod.snd same
        rw [layer.overwrites_eq effect.sameShape, file_eq]
        exact refused
      · refine ⟨rewrites ++ [⟨task.name, task.file, bytes⟩], dealt ++ [(task.name, task.file)],
          split_after, ?_⟩
        simp only [Moment.tree, Moment.session, Moment.report, Moment.writtenBack, bench, written]
        exact effect.rewrite returns overwritten
  | touch task change next session =>
      have unchanged := (leavesFiles_of_passes leaves before_passes).1 session.build.tree
      refine ⟨rewrites, dealt, split, ?_⟩
      simp only [Moment.tree, Moment.session, BuildState.withTree, unchanged]
      exact effect
  | _ => exact ⟨rewrites, dealt, split, effect⟩

/-- A class for which new bytes were returned is dealt with at the end of the batch. -/
theorem Returns.dealt {rewrite : Rewrite} (returns : batch.Returns retention build agent rewrite)
    {left dealt : List (ClassName × FilePath)} {run : BatchRun σ} {error : Option EnhanceError}
    (ended : batch.Passes retention build agent (.ended left run error))
    (split : batch.classes.entries = dealt ++ left) : rewrite.entry ∈ dealt := by
  obtain ⟨task, state, session, passes, name_eq, file_eq⟩ := returns
  have entry_eq : rewrite.entry = (task.name, task.file) := by
    rw [Rewrite.entry, name_eq, file_eq]
  have member : rewrite.entry ∈ dealt ++ left := by
    obtain ⟨before, within_split, -⟩ := covered_of_passes passes
    rw [← split, within_split, Moment.left, entry_eq]
    exact List.mem_append_right _ (List.mem_cons_self ..)
  obtain ⟨transformer, reach⟩ := passes_reaches_end passes ended
  have absent : task.name ∉ left.map Prod.fst := by
    rcases not_left_of_settled passes reach trivial with same | absent
    · cases same
    · exact absent
  rcases List.mem_append.mp member with earlier | last
  · exact earlier
  · rw [entry_eq] at last
    exact (absent (List.mem_map.mpr ⟨_, last, rfl⟩)).elim

theorem Returns.created {rewrite : Rewrite}
    (returns : batch.Returns retention build agent rewrite) :
    ∃ ready transformer, batch.create build agent = (ready, .ready transformer) := by
  obtain ⟨task, state, session, ⟨ready, transformer, created, -⟩, -⟩ := returns
  exact ⟨ready, transformer, created⟩

theorem effect_uncreated {layer : FileLayer} {report : BatchReport}
    (uncreated : ∀ ready transformer, batch.create build agent ≠ (ready, .ready transformer))
    (transformed : report.transformed = []) :
    batch.Effect layer retention build agent [] batch.classes.entries build.tree report := by
  have nothing : batch.Effect layer retention build agent [] [] build.tree report :=
    .nothing transformed
  refine nothing.widen (List.nil_sublist _) (fun rewrite _ returns => ?_) rfl
  obtain ⟨ready, transformer, created⟩ := returns.created
  exact (uncreated ready transformer created).elim

/-- Rewrites account for the files at the end of every run. -/
theorem effect_of_run {layer : FileLayer} (access_eq : batch.context.layer = layer.access)
    (leaves : batch.factory.LeavesFiles) :
    ∃ rewrites, batch.Effect layer retention build agent rewrites batch.classes.entries
      (batch.runRetaining retention build agent).build.tree
      (batch.runRetaining retention build agent).report := by
  cases created : batch.create build agent with
  | mk ready creation =>
      cases creation with
      | refused error =>
          simp only [runRetaining, created]
          exact ⟨[], effect_uncreated (by simp [created]) rfl⟩
      | panicked reason =>
          simp only [runRetaining, created]
          exact ⟨[], effect_uncreated (by simp [created]) rfl⟩
      | ready transformer =>
          obtain ⟨left, run, error, passes, result⟩ := passes_end retention created
          obtain ⟨rewrites, dealt, split, effect⟩ := accounted_of_passes access_eq leaves passes
          have front : dealt.Sublist batch.classes.entries := by
            rw [split]
            exact List.sublist_append_left _ _
          rw [result]
          refine ⟨rewrites, ?_⟩
          cases error with
          | none => exact effect.widen front (fun _ _ returns _ => returns.dealt passes split) rfl
          | some error =>
              exact effect.widen front (fun _ _ returns _ => returns.dealt passes split) rfl

/-- A batch whose transformer touches files only through the build overwrites the files of the
classes that it reports as rewritten, in order.  These are the classes for which the transformer
returned bytes that the layer writes.  Nothing is created or removed, a file holds the bytes that
were written to it last, and every other file holds what it held. -/
theorem run_rewrites (batch : Batch σ) (layer : FileLayer)
    (access_eq : batch.context.layer = layer.access) (inside : batch.factory.StaysInside)
    (retention : Retention) (build : BuildState) (agent : σ) :
    let result := batch.runRetaining retention build agent
    ∃ rewrites : List Rewrite,
      batch.Effect layer retention build agent rewrites batch.classes.entries result.build.tree
        result.report ∧
      FileTree.SameShape build.tree result.build.tree ∧
      (∀ location, result.build.tree.lookup? location =
        match build.tree.lastWritten? (rewrites.map Rewrite.change) location with
        | some bytes => some (.file bytes)
        | none => build.tree.lookup? location) ∧
      ∀ location, (∀ name file, (name, file) ∈ batch.classes.entries →
          name ∈ result.report.transformed → build.tree.locate file ≠ .ok location) →
        result.build.tree.lookup? location = build.tree.lookup? location := by
  obtain ⟨rewrites, effect⟩ := effect_of_run access_eq inside.leavesFiles
  exact ⟨rewrites, effect, effect.sameShape, effect.lookup?_eq,
    fun _ untouched => effect.lookup?_untouched untouched⟩

/-- The pair overwrites the file of its first class. -/
theorem run_rewrites_pair :
    ∃ rewrites, pair.Effect .plain (.newest 0) (.initial pairTree) .blank rewrites
        pair.classes.entries (pair.runRetaining (.newest 0) (.initial pairTree) .blank).build.tree
        (pair.runRetaining (.newest 0) (.initial pairTree) .blank).report ∧
      rewrites.map Rewrite.name = [markedName] := by
  obtain ⟨rewrites, effect, -⟩ := run_rewrites pair .plain rfl (Marking.factory_stays_inside _)
    (.newest 0) (.initial pairTree) .blank
  exact ⟨rewrites, effect, effect.transformed.trans (by decide)⟩

end Batch
end ClassEnhancement
