import ClassEnhancement.Build.Context
import ClassEnhancement.ClassFile.CompiledSet

/-!
# Resolving class bytes

A resolver answers for the slash spelling of a class, as of the compilation that just ended.  It
asks its strategies in order: the set of freshly compiled classes, then the source index with the
output directories of the owning module.  A strategy that fails warns and ends the search.  Bytes
found through the index are remembered, within what the resolver chooses to retain; those of fresh
classes never are, because a batch rewrites them.
-/

namespace ClassEnhancement

/-! ## Strategies -/

/-- Why a class was not found. -/
inductive ResolveError where
  /-- The file that holds the class cannot be read. -/
  | unreadable (path : FilePath)
  /-- No declaration of the class is known. -/
  | notIndexed (key : String)
  deriving DecidableEq, Repr

/-- Wording of the warning. -/
def ResolveError.message : ResolveError → String
  | .unreadable path => s!"Error reading file contents: {path.text}"
  | .notIndexed key => s!"Couldn't find source declaration for class: {key}"

/-- What a strategy comes to. -/
inductive Resolution where
  /-- The bytes of the class. -/
  | found (bytes : Bytes)
  /-- The strategy does not apply to the class. -/
  | notApplicable
  /-- The search ends here. -/
  | failed (error : ResolveError)
  deriving DecidableEq, Repr

/-- The strategies that there are. -/
inductive Strategy where
  /-- The set of freshly compiled classes. -/
  | compiledSet
  /-- The source index and the output directories. -/
  | sourceIndex
  deriving DecidableEq, Repr

namespace Strategy

/-- Name of a strategy. -/
def name : Strategy → String
  | compiledSet => "compiled-set"
  | sourceIndex => "source-index"

/-- Whether what the strategy finds may be remembered. -/
def isCacheable : Strategy → Bool
  | compiledSet => false
  | sourceIndex => true

end Strategy

namespace Resolution

/-- Dotted spelling of a class path, the key of a compiled set. -/
def dottedOf (classPath : String) : String := Text.replaceChar '/' '.' classPath

/-- Key of a class path in a source index. -/
def indexKeyOf (classPath : String) : String :=
  Text.replaceChar nestedMark '.' (Text.replaceChar '/' '.' classPath)

/-- Location of the class file below an output directory; a text that is no class name only gets
the ending of class files. -/
def relativeFileOf (classPath : String) : FilePath :=
  match ClassName.ofSlashed classPath with
  | .ok name => name.classFile
  | .error _ => ⟨classPath ++ ClassName.classEnding⟩

/-- Reads a file that has to hold the class. -/
def ofFile (context : BuildContext) (tree : FileTree) (path : FilePath) : Resolution :=
  match context.layer.read tree path with
  | .content bytes => .found bytes
  | _ => .failed (.unreadable path)

/-- Looks the class up among the freshly compiled ones. -/
def ofCompiledSet (context : BuildContext) (tree : FileTree) (classes : CompiledSet)
    (classPath : String) : Resolution :=
  match classes.fileOf? (dottedOf classPath) with
  | none => .notApplicable
  | some file => ofFile context tree file

/-- One output directory as a place to look in. -/
structure Place where
  /-- What the directory is called in warnings. -/
  label : String
  /-- The directory, if the module has one. -/
  directory : Option FilePath

/-- Looks for a file in the places of a module, in order, and last in the file that declares the
class.  A missing directory warns, and so does a class found in no place. -/
def inPlaces (context : BuildContext) (tree : FileTree) (owner : String) (classPath : String)
    (declaring : FilePath) : List Place → Resolution × List Message
  | [] =>
    (ofFile context tree declaring,
      [.warning s!"{owner}: Couldn't find compiled file for class: {classPath}"])
  | place :: rest =>
    match place.directory with
    | none =>
      let (resolution, warnings) := inPlaces context tree owner classPath declaring rest
      (resolution,
        .warning s!"{owner}: Couldn't find {place.label} output directory!" :: warnings)
    | some directory =>
      let candidate := directory.join (relativeFileOf classPath)
      match context.layer.read tree candidate with
      | .content bytes => (.found bytes, [])
      | .unreadable _ => (.failed (.unreadable candidate), [])
      | .absent => inPlaces context tree owner classPath declaring rest

/-- The places of a module, main classes first. -/
def placesOf (owner : ProjectModule) : List Place :=
  [⟨"main", owner.output⟩, ⟨"test", owner.testOutput⟩]

/-- The module that compiles a declaration; library classes have none. -/
def ownerOf? (project : Project) (declaration : Declaration) : Option ProjectModule :=
  match declaration.origin with
  | .library => none
  | .source => project.moduleFor? declaration.file

/-- Looks the class up through the source index. -/
def ofSourceIndex (context : BuildContext) (tree : FileTree) (classPath : String) :
    Resolution × List Message :=
  let key := indexKeyOf classPath
  match context.project.index.find? key with
  | none => (.failed (.notIndexed key), [])
  | some declaration =>
    match ownerOf? context.project declaration with
    | none => (ofFile context tree declaration.file, [])
    | some owner =>
      inPlaces context tree owner.name classPath declaration.file (placesOf owner)

/-- What one strategy comes to, with its warnings. -/
def ofStrategy (context : BuildContext) (tree : FileTree) (classes : CompiledSet)
    (classPath : String) : Strategy → Resolution × List Message
  | .compiledSet => (ofCompiledSet context tree classes classPath, [])
  | .sourceIndex => ofSourceIndex context tree classPath

end Resolution

/-! ## Remembering -/

/-- What a resolver has found so far, and how often it was asked. -/
structure ClassCache where
  /-- The bytes found last for every class path, the newest class path at the end. -/
  found : OrderedMap String Bytes
  /-- Number of lookups. -/
  lookups : Nat

/-- A choice, at every lookup, of the class paths that are recalled. -/
structure Retention where
  /-- Whether a class path is recalled. -/
  recalls : ClassCache → String → Bool

namespace ClassCache

/-- The cache of a resolver that was never asked. -/
def empty : ClassCache := ⟨.empty, 0⟩

/-- One more lookup. -/
def asked (cache : ClassCache) : ClassCache := { cache with lookups := cache.lookups + 1 }

/-- One more class path with its bytes. -/
def insert (cache : ClassCache) (classPath : String) (bytes : Bytes) : ClassCache :=
  { cache with found := (cache.found.erase classPath).insert classPath bytes }

end ClassCache

namespace Retention

/-- The bytes that are recalled for a class path: none, or those found last. -/
def recalled? (retention : Retention) (cache : ClassCache) (classPath : String) : Option Bytes :=
  if retention.recalls cache classPath then cache.found.find? classPath else none

/-- The newest class paths are recalled, as many as the capacity allows. -/
def newest (capacity : Nat) : Retention where
  recalls cache classPath :=
    decide (classPath ∈ cache.found.keys.drop (cache.found.size - capacity))

end Retention

/-! ## The resolver -/

/-- A resolver over a set of freshly compiled classes. -/
structure Resolver where
  /-- Strategies in the order in which they are asked. -/
  strategies : List Strategy
  /-- Freshly compiled classes. -/
  classes : CompiledSet
  /-- What stays remembered. -/
  retention : Retention

/-- The answer for one class path. -/
structure Lookup where
  /-- The bytes, if the class was found. -/
  result : Option Bytes
  /-- Warnings of the search. -/
  warnings : List Message
  /-- What is remembered afterwards. -/
  cache : ClassCache

namespace Resolver

/-- The resolver that asks both strategies, fresh classes first. -/
def retaining (retention : Retention) (classes : CompiledSet) : Resolver :=
  ⟨[.compiledSet, .sourceIndex], classes, retention⟩

/-- The resolver that asks both strategies and recalls as many classes as its capacity allows. -/
def standard (classes : CompiledSet) (capacity : Nat) : Resolver :=
  retaining (.newest capacity) classes

/-- What is remembered when a strategy has found a class. -/
def remember (cache : ClassCache) (classPath : String) (bytes : Bytes) (strategy : Strategy) :
    ClassCache :=
  if strategy.isCacheable then cache.insert classPath bytes else cache

/-- Asks strategies in order. -/
def ask (resolver : Resolver) (context : BuildContext) (tree : FileTree) (cache : ClassCache)
    (classPath : String) : List Strategy → Lookup
  | [] => ⟨none, [], cache⟩
  | strategy :: rest =>
    match Resolution.ofStrategy context tree resolver.classes classPath strategy with
    | (.found bytes, warnings) =>
      ⟨some bytes, warnings, remember cache classPath bytes strategy⟩
    | (.failed error, warnings) => ⟨none, warnings ++ [.warning error.message], cache⟩
    | (.notApplicable, warnings) =>
      let lookup := resolver.ask context tree cache classPath rest
      { lookup with warnings := warnings ++ lookup.warnings }

/-- The bytes of a class by its slash spelling. -/
def resolve (resolver : Resolver) (context : BuildContext) (tree : FileTree) (cache : ClassCache)
    (classPath : String) : Lookup :=
  match resolver.retention.recalled? cache classPath with
  | some bytes => ⟨some bytes, [], cache.asked⟩
  | none => resolver.ask context tree cache.asked classPath resolver.strategies

/-- Diagnostic text. -/
def describe (resolver : Resolver) : String :=
  let names := Text.bracketed (resolver.strategies.map fun strategy => Text.quoted strategy.name)
  s!"ClassBytesResolver \x7b strategies: {names}, .. \x7d"

end Resolver
end ClassEnhancement
