import ClassEnhancement.Enhance.Batch

/-!
# The enhancement listener

A listener runs one batch for each compilation and keeps the report of the latest one.
-/

namespace ClassEnhancement

/-- A listener with the report of its latest batch. -/
structure EnhancementListener (σ : Type) where
  /-- Creates the transformer of every batch. -/
  factory : TransformerFactory σ
  /-- Settings of every batch. -/
  config : EnhanceConfig
  /-- Report of the latest batch. -/
  lastReport : Option BatchReport

namespace EnhancementListener

variable {σ : Type}

/-- A listener that has run no batch. -/
def new (factory : TransformerFactory σ) (config : EnhanceConfig) : EnhancementListener σ :=
  ⟨factory, config, none⟩

/-- The batch for a compilation. -/
def batch (listener : EnhancementListener σ) (context : BuildContext) (classes : CompiledSet) :
    Batch σ :=
  ⟨context, classes, listener.factory, listener.config⟩

/-- Runs a batch and keeps its report. -/
def enhance (listener : EnhancementListener σ) (context : BuildContext) (classes : CompiledSet)
    (build : BuildState) (agent : σ) : EnhancementListener σ × BatchResult σ :=
  let result := (listener.batch context classes).run build agent
  ({ listener with lastReport := some result.report }, result)

/-- Diagnostic text. -/
def describe (listener : EnhancementListener σ) : String :=
  s!"EnhancementListener \x7b config: {listener.config.describe}, .. \x7d"

end EnhancementListener
end ClassEnhancement
