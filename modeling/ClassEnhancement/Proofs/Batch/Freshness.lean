import ClassEnhancement.Proofs.Batch.Rewriting
import ClassEnhancement.Proofs.Resolver.Itinerary

/-!
# Fresh classes stay fresh

A resolver never remembers a class of the batch, so a lookup of such a class reads its file at that
moment.  Once the class is rewritten, every later lookup sees its new bytes, although the resolver
recalls what it remembers before it asks any strategy.
-/

namespace ClassEnhancement

/-! ## What is remembered -/

/-- No class path that is remembered is that of a fresh class. -/
def ClassCache.Avoids (cache : ClassCache) (classes : CompiledSet) : Prop :=
  ∀ classPath ∈ cache.found.keys, classes.fileOf? (Resolution.dottedOf classPath) = none

namespace ClassCache

variable {classes : CompiledSet}

theorem avoids_empty : empty.Avoids classes := by
  intro classPath member
  cases member

namespace Avoids

variable {cache : ClassCache}

theorem asked (avoids : cache.Avoids classes) : cache.asked.Avoids classes := avoids

theorem insert (avoids : cache.Avoids classes) {classPath : String}
    (stale : classes.fileOf? (Resolution.dottedOf classPath) = none) (bytes : Bytes) :
    (cache.insert classPath bytes).Avoids classes := by
  intro other member
  rcases OrderedMap.mem_keys_insert.mp member with rfl | kept
  · exact stale
  · exact avoids other ((OrderedMap.keys_erase_sublist _ _).subset kept)

theorem recalled?_eq_none (avoids : cache.Avoids classes) {classPath : String} {file : FilePath}
    (fresh : classes.fileOf? (Resolution.dottedOf classPath) = some file) (retention : Retention) :
    retention.recalled? cache classPath = none := by
  cases recalled : retention.recalled? cache classPath with
  | none => rfl
  | some bytes =>
      rw [Retention.recalled?] at recalled
      split at recalled
      · have stale := avoids classPath (OrderedMap.mem_keys_of_find? recalled)
        cases fresh.symm.trans stale
      · cases recalled

end Avoids
end ClassCache

namespace Resolver

variable {retention : Retention} {classes : CompiledSet} {context : BuildContext} {tree : FileTree}
  {cache : ClassCache}

/-- A lookup by both strategies remembers the class at most when it is not fresh. -/
theorem cache_ask (resolver : Resolver) (cache : ClassCache) (classPath : String) :
    (resolver.ask context tree cache classPath [.compiledSet, .sourceIndex]).cache = cache ∨
      resolver.classes.fileOf? (Resolution.dottedOf classPath) = none ∧
        ∃ bytes, (resolver.ask context tree cache classPath [.compiledSet, .sourceIndex]).cache =
          cache.insert classPath bytes := by
  cases fresh : resolver.classes.fileOf? (Resolution.dottedOf classPath) with
  | some file =>
      left
      rw [ask, Resolution.ofStrategy_fresh fresh, Resolution.ofFile_eq]
      cases (context.layer.read tree file).bytes? <;> rfl
  | none =>
      rw [ask_of_notApplicable (Resolution.ofStrategy_stale fresh), ask]
      rcases Resolution.ofStrategy context tree resolver.classes classPath .sourceIndex with
        ⟨resolution, warnings⟩
      cases resolution with
      | found bytes => exact .inr ⟨rfl, bytes, rfl⟩
      | notApplicable => exact .inl rfl
      | failed error => exact .inl rfl

/-- A lookup remembers no fresh class. -/
theorem avoids_resolve (avoids : cache.Avoids classes) (classPath : String) :
    ((retaining retention classes).resolve context tree cache classPath).cache.Avoids classes := by
  cases recalled : retention.recalled? cache classPath with
  | some bytes =>
      simp only [resolve, retaining, recalled]
      exact avoids.asked
  | none =>
      rw [resolve_of_missed recalled]
      rcases cache_ask (retaining retention classes) cache.asked classPath with
        kept | ⟨stale, bytes, remembered⟩
      · rw [kept]
        exact avoids.asked
      · rw [remembered]
        exact avoids.asked.insert stale bytes

/-- A lookup of a fresh class reads its file. -/
theorem resolve_fresh (avoids : cache.Avoids classes) {classPath : String} {file : FilePath}
    (fresh : classes.fileOf? (Resolution.dottedOf classPath) = some file) :
    ((retaining retention classes).resolve context tree cache classPath).result =
      (context.layer.read tree file).bytes? := by
  have follows := ask_follows (retaining retention classes) context tree cache.asked
    classPath
  have alone : Itinerary.ofClass context classes classPath = [⟨[], file⟩] := by
    rw [Itinerary.ofClass, fresh]
  rw [resolve_of_missed (avoids.recalled?_eq_none fresh retention), follows.result,
    retaining, alone, Itinerary.answer?_eq, Itinerary.visited_singleton]
  rfl

end Resolver

theorem FileLayer.read_eq {layer : FileLayer} {tree : FileTree} {path : FilePath}
    {location : Location} {bytes : Bytes} (located : tree.locate path = .ok location)
    (held : tree.lookup? location = some (.file bytes))
    (readable : lists layer.unreadable path = false) : layer.read tree path = .content bytes := by
  simp [read, readable, FileTree.read, located, FileTree.contentAt, held, outcome]

/-! ## Lookups of a batch -/

/-- No fresh class is remembered at a moment. -/
def Moment.Avoids {σ : Type} (classes : CompiledSet) (moment : Moment σ) : Prop :=
  moment.session.cache.Avoids classes

namespace Batch

variable {σ : Type} {batch : Batch σ} {retention : Retention} {build : BuildState} {agent : σ}

/-- Every lookup of a fresh class, at any moment of a batch, sees the class as it is. -/
structure SeesFresh (batch : Batch σ) (retention : Retention) (build : BuildState) (agent : σ) :
    Prop where
  /-- No fresh class is ever remembered. -/
  avoids : ∀ moment, batch.Passes retention build agent moment → moment.Avoids batch.classes
  /-- The answer is what the file holds at that moment. -/
  reads : ∀ task classPath next session file,
    batch.Passes retention build agent (.within task (.load classPath next) session) →
    batch.classes.fileOf? (Resolution.dottedOf classPath) = some file →
    ((batch.bench retention).load session classPath).1 =
      (batch.context.layer.read session.build.tree file).bytes?
  /-- When files are touched through the build only, these are the bytes that the batch wrote to
  the file last. -/
  rewritten : ∀ layer : FileLayer, batch.context.layer = layer.access →
    batch.factory.StaysInside → ∀ task classPath next session file,
    batch.Passes retention build agent (.within task (.load classPath next) session) →
    batch.classes.fileOf? (Resolution.dottedOf classPath) = some file →
    FileLayer.lists layer.unreadable file = false →
    ∃ rewrites dealt, batch.classes.entries = dealt ++ (task.name, task.file) :: task.later ∧
      batch.Effect layer retention build agent rewrites dealt session.build.tree task.report ∧
      ∀ before rewrite after, rewrites = before ++ rewrite :: after → rewrite.file = file →
        (∀ later ∈ after, build.tree.locate later.file ≠ build.tree.locate file) →
        ((batch.bench retention).load session classPath).1 = some rewrite.bytes

theorem avoids_of_passes {moment : Moment σ}
    (passes : batch.Passes retention build agent moment) : moment.Avoids batch.classes := by
  refine passes.induction (fun _ _ _ => ClassCache.avoids_empty) ?_
  intro ready transformer before after created _ step avoids
  cases step with
  | load task classPath next session => exact Resolver.avoids_resolve avoids classPath
  | _ => exact avoids

theorem load_of_passes {task : Task} {classPath : String} {next : Option Bytes → Work σ}
    {session : Session} {file : FilePath}
    (passes : batch.Passes retention build agent (.within task (.load classPath next) session))
    (fresh : batch.classes.fileOf? (Resolution.dottedOf classPath) = some file) :
    ((batch.bench retention).load session classPath).1 =
      (batch.context.layer.read session.build.tree file).bytes? :=
  Resolver.resolve_fresh (avoids_of_passes passes) fresh

/-- A file holds what was written to it last. -/
theorem Effect.read_eq {layer : FileLayer} {rewrites before after : List Rewrite}
    {dealt : List (ClassName × FilePath)} {tree : FileTree} {report : BatchReport}
    (effect : batch.Effect layer retention build agent rewrites dealt tree report)
    {rewrite : Rewrite} (split : rewrites = before ++ rewrite :: after)
    (kept : ∀ later ∈ after, build.tree.locate later.file ≠ build.tree.locate rewrite.file)
    (readable : FileLayer.lists layer.unreadable rewrite.file = false) :
    layer.read tree rewrite.file = .content rewrite.bytes := by
  have rewritten : rewrite ∈ rewrites := by simp [split]
  obtain ⟨location, located, -⟩ :=
    FileLayer.denotesFile_of_overwrites ((effect.chosen rewrite).mp rewritten).2.2
  have last : build.tree.lastWritten? (rewrites.map Rewrite.change) location =
      some rewrite.bytes := by
    rw [split, List.map_append, List.map_cons]
    refine FileTree.lastWritten?_of_split located fun change member => ?_
    obtain ⟨later, follows, rfl⟩ := List.mem_map.mp member
    rw [← located]
    exact kept later follows
  have held : tree.lookup? location = some (.file rewrite.bytes) := by
    rw [effect.lookup?_eq, last]
  rw [effect.sameShape.locate_eq] at located
  exact FileLayer.read_eq located held readable

/-- Every lookup of a fresh class sees the class as it is. -/
theorem sees_fresh (batch : Batch σ) (retention : Retention) (build : BuildState) (agent : σ) :
    batch.SeesFresh retention build agent where
  avoids _ passes := avoids_of_passes passes
  reads _ _ _ _ _ passes fresh := load_of_passes passes fresh
  rewritten layer access_eq inside task classPath next session file passes fresh readable := by
    obtain ⟨rewrites, dealt, split, effect⟩ :=
      accounted_of_passes access_eq inside.leavesFiles passes
    refine ⟨rewrites, dealt, split, effect, ?_⟩
    intro before rewrite after listed same kept
    subst same
    have read : layer.read session.build.tree rewrite.file = .content rewrite.bytes :=
      effect.read_eq listed kept readable
    have accessed : batch.context.layer.read = layer.read := congrArg FileAccess.read access_eq
    rw [load_of_passes passes fresh, accessed, read]
    rfl

/-! ## A class that is seen rewritten -/

/-- Rewrites the first class of the pair and loads it while it deals with the second one. -/
def viewer : Transformer Unit where
  transform _ name _ :=
    if name = markedName then .finish () (.replaced [9])
    else .load "a/A" fun _ => .finish () .declined

/-- The pair with the viewer. -/
def viewedPair : Batch Unit where
  context := pair.context
  classes := pair.classes
  factory := ⟨fun _ _ _ => ((), .ready viewer)⟩
  config := .standard

/-- The viewer sees the bytes that it returned. -/
theorem sees_fresh_viewed :
    ∃ task next session,
      viewedPair.Passes (.newest 1) (.initial pairTree) ()
        (.within task (.load "a/A" next) session) ∧
      ((viewedPair.bench (.newest 1)).load session "a/A").1 = some [9] := by
  have passes : viewedPair.Passes (.newest 1) (.initial pairTree) ()
      (.within _ (.load "a/A" fun _ => .finish () .declined) _) :=
    ⟨(), viewer, rfl, (Moment.reaches_step (viewedPair.bench (.newest 1)) viewer markedName
      ⟨"A.class"⟩ [(panickingName, ⟨"B.class"⟩)] _).tail (.hand rfl)⟩
  refine ⟨_, _, _, passes, ?_⟩
  exact ((sees_fresh viewedPair (.newest 1) (.initial pairTree) ()).reads _ _ _ _ ⟨"A.class"⟩ passes
    rfl).trans (by decide)

end Batch
end ClassEnhancement
