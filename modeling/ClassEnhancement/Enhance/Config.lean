import ClassEnhancement.Manifest.Location
import ClassEnhancement.Text.Quoted

/-!
# Enhancement settings

What one pass of the enhancement is told: where manifests are, options for the transformer, the
label of its progress, and how many classes its resolver may remember.
-/

namespace ClassEnhancement

/-- Options for a transformer. -/
structure AgentOptions where
  /-- How much the transformer logs. -/
  debug : Nat
  deriving DecidableEq, Repr

/-- The options as the argument of a transformer. -/
def AgentOptions.arguments (options : AgentOptions) : String := s!"debug={options.debug}"

/-- Settings of one pass. -/
structure EnhanceConfig where
  /-- Where manifests are. -/
  manifest : ManifestLocation
  /-- Options for the transformer. -/
  agent : AgentOptions
  /-- Label of the progress. -/
  progressLabel : String
  /-- Number of classes that a resolver may remember. -/
  cacheCapacity : Nat
  deriving DecidableEq, Repr

namespace EnhanceConfig

/-- The settings where nothing else is configured. -/
def standard : EnhanceConfig where
  manifest := .standard
  agent := ⟨2⟩
  progressLabel := "Ebean query bean enhancement"
  cacheCapacity := 1024

/-- Diagnostic text. -/
def describe (config : EnhanceConfig) : String :=
  let manifest := "ManifestLocation \x7b file_name: " ++ Text.quoted config.manifest.fileName
    ++ ", directory: " ++ Text.quoted config.manifest.directory ++ " \x7d"
  let agent := s!"AgentOptions \x7b debug: {config.agent.debug} \x7d"
  let label := Text.quoted config.progressLabel
  let capacity := config.cacheCapacity
  s!"EnhanceConfig \x7b manifest: {manifest}, agent: {agent}, progress_label: {label}, "
    ++ s!"resolver_cache_capacity: {capacity} \x7d"

end EnhanceConfig
end ClassEnhancement
