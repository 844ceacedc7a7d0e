import ClassEnhancement.Proofs.Resolver.Itinerary

/-!
# What is remembered does not show

A resolver without a memory would ask its strategies at every lookup.  While no file changes, what a
resolver remembers of a class is what its strategies would come to again: only bytes that were found
are remembered, each under the class path that it was found for.  So the results of lookups do not
tell which of them were recalled.
-/

namespace ClassEnhancement

namespace Resolution

/-- The bytes that strategies come to when they are asked in order. -/
def ofStrategies? (context : BuildContext) (tree : FileTree) (classes : CompiledSet)
    (classPath : String) : List Strategy → Option Bytes
  | [] => none
  | strategy :: rest =>
    match (ofStrategy context tree classes classPath strategy).1 with
    | .found bytes => some bytes
    | .failed _ => none
    | .notApplicable => ofStrategies? context tree classes classPath rest

end Resolution

/-! ## What is remembered -/

/-- What is remembered of a class is the answer for it. -/
def ClassCache.Tells (cache : ClassCache) (answer? : String → Option Bytes) : Prop :=
  ∀ classPath bytes, cache.found.find? classPath = some bytes → answer? classPath = some bytes

namespace ClassCache

variable {cache : ClassCache} {answer? : String → Option Bytes}

theorem tells_empty : empty.Tells answer? := nofun

theorem Tells.asked (tells : cache.Tells answer?) : cache.asked.Tells answer? := tells

theorem Tells.insert (tells : cache.Tells answer?) {classPath : String} {bytes : Bytes}
    (answered : answer? classPath = some bytes) :
    (cache.insert classPath bytes).Tells answer? := by
  intro other content found
  rw [ClassCache.insert] at found
  by_cases same : other = classPath
  · subst same
    rw [OrderedMap.find?_insert_self] at found
    cases found
    exact answered
  · rw [OrderedMap.find?_insert_of_ne _ same, OrderedMap.find?_erase_of_ne _ same] at found
    exact tells other content found

theorem Tells.recalled (tells : cache.Tells answer?) {retention : Retention} {classPath : String}
    {bytes : Bytes} (recalled : retention.recalled? cache classPath = some bytes) :
    answer? classPath = some bytes := by
  rw [Retention.recalled?] at recalled
  split at recalled
  · exact tells classPath bytes recalled
  · cases recalled

end ClassCache

namespace Resolver

variable {context : BuildContext} {tree : FileTree} {cache : ClassCache}

/-- The answers of the strategies of a resolver. -/
def answer? (resolver : Resolver) (context : BuildContext) (tree : FileTree)
    (classPath : String) : Option Bytes :=
  Resolution.ofStrategies? context tree resolver.classes classPath resolver.strategies

/-! ## One lookup -/

/-- Strategies that are asked come to what they would come to alone. -/
theorem result_ask (resolver : Resolver) (context : BuildContext) (tree : FileTree)
    (cache : ClassCache) (classPath : String) (strategies : List Strategy) :
    (resolver.ask context tree cache classPath strategies).result =
      Resolution.ofStrategies? context tree resolver.classes classPath strategies := by
  induction strategies with
  | nil => rfl
  | cons strategy rest hypothesis =>
      rw [ask, Resolution.ofStrategies?]
      rcases Resolution.ofStrategy context tree resolver.classes classPath strategy with
        ⟨resolution, warnings⟩
      cases resolution with
      | found bytes => rfl
      | notApplicable => exact hypothesis
      | failed error => rfl

/-- Strategies that are asked leave the cache alone, or add what they find. -/
theorem cache_ask_cases (resolver : Resolver) (context : BuildContext) (tree : FileTree)
    (cache : ClassCache) (classPath : String) (strategies : List Strategy) :
    (resolver.ask context tree cache classPath strategies).cache = cache ∨
      ∃ bytes, (resolver.ask context tree cache classPath strategies).result = some bytes ∧
        (resolver.ask context tree cache classPath strategies).cache =
          cache.insert classPath bytes := by
  induction strategies with
  | nil => exact .inl rfl
  | cons strategy rest hypothesis =>
      rw [ask]
      rcases Resolution.ofStrategy context tree resolver.classes classPath strategy with
        ⟨resolution, warnings⟩
      cases resolution with
      | found bytes =>
          cases strategy with
          | compiledSet => exact .inl rfl
          | sourceIndex => exact .inr ⟨bytes, rfl, rfl⟩
      | notApplicable => exact hypothesis
      | failed error => exact .inl rfl

theorem result_resolve {resolver : Resolver}
    (tells : cache.Tells (resolver.answer? context tree)) (classPath : String) :
    (resolver.resolve context tree cache classPath).result =
      resolver.answer? context tree classPath := by
  rw [resolve]
  cases recalled : resolver.retention.recalled? cache classPath with
  | some bytes => exact (tells.recalled recalled).symm
  | none => exact result_ask resolver context tree cache.asked classPath resolver.strategies

theorem tells_resolve {resolver : Resolver}
    (tells : cache.Tells (resolver.answer? context tree)) (classPath : String) :
    (resolver.resolve context tree cache classPath).cache.Tells
      (resolver.answer? context tree) := by
  rw [resolve]
  cases resolver.retention.recalled? cache classPath with
  | some bytes => exact tells.asked
  | none =>
      have result := result_ask resolver context tree cache.asked classPath resolver.strategies
      rcases cache_ask_cases resolver context tree cache.asked classPath resolver.strategies with
        kept | ⟨bytes, found, remembered⟩
      · rw [kept]
        exact tells.asked
      · rw [remembered]
        exact tells.asked.insert (result.symm.trans found)

/-! ## Lookups one after another -/

/-- The results of lookups, each with what the earlier ones left remembered. -/
def results (resolver : Resolver) (context : BuildContext) (tree : FileTree) :
    ClassCache → List String → List (Option Bytes)
  | _, [] => []
  | cache, classPath :: rest =>
    let lookup := resolver.resolve context tree cache classPath
    lookup.result :: resolver.results context tree lookup.cache rest

theorem results_eq_map {resolver : Resolver}
    (tells : cache.Tells (resolver.answer? context tree)) (classPaths : List String) :
    resolver.results context tree cache classPaths =
      classPaths.map (resolver.answer? context tree) := by
  induction classPaths generalizing cache with
  | nil => rfl
  | cons classPath rest hypothesis =>
      rw [results, List.map_cons, result_resolve tells, hypothesis (tells_resolve tells classPath)]

/-- Both strategies together come to the first file of the itinerary that is not absent. -/
theorem answer?_retaining (retention : Retention) (classes : CompiledSet) (classPath : String) :
    (retaining retention classes).answer? context tree classPath =
      (Itinerary.ofClass context classes classPath).answer? context tree := by
  have follows := ask_follows (retaining retention classes) context tree .empty classPath
  exact (result_ask _ _ _ _ _ _).symm.trans follows.result

/-- While no file changes, the results of lookups are the same whatever is recalled: at any lookup,
some of what was found before, or nothing.  So they are the same for every capacity: every class has
the bytes in the first file of its itinerary that is not absent. -/
theorem results_of_any_retention (classes : CompiledSet) (context : BuildContext)
    (tree : FileTree) (classPaths : List String) :
    (∀ strategies retention,
      (Resolver.mk strategies classes retention).results context tree .empty classPaths =
        classPaths.map fun classPath =>
          Resolution.ofStrategies? context tree classes classPath strategies) ∧
    ∀ capacity,
      (standard classes capacity).results context tree .empty classPaths =
        classPaths.map fun classPath =>
          (Itinerary.ofClass context classes classPath).answer? context tree := by
  constructor
  · exact fun strategies retention => results_eq_map ClassCache.tells_empty classPaths
  · intro capacity
    rw [results_eq_map ClassCache.tells_empty]
    exact List.map_congr_left fun classPath _ => answer?_retaining _ classes classPath

end Resolver
end ClassEnhancement
