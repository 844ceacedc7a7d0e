import ClassEnhancement.Service.Workspace

/-!
# Compilations of a service

When a compilation ends, the listeners on the bus of the service are notified.  Among them is the
enhancement listener, if the service was enabled; the report of its batch is the answer.  A batch
can also be asked for directly.
-/

namespace ClassEnhancement

/-- A compilation that ended. -/
structure Compilation where
  /-- The build. -/
  context : BuildContext
  /-- Freshly compiled classes. -/
  classes : CompiledSet

namespace Workspace

variable {σ : Type}

/-- A workspace together with the build of a compilation. -/
abbrev Running (σ : Type) := Workspace σ × BuildState

/-- Runs a batch of a service and keeps its report. -/
def enhance (compilation : Compilation) (index : Nat) (running : Running σ) :
    Running σ × Option BatchReport :=
  let (workspace, build) := running
  match workspace.services[index]? with
  | none => (running, none)
  | some service =>
    let (listener, result) :=
      service.listener.enhance compilation.context compilation.classes build workspace.agent
    (({ workspace with
        services := workspace.services.set index { service with listener }
        agent := result.agent }, result.build),
      some result.report)

/-- What a guest does to the hub; guests switch the service whose bus they are on. -/
def act (service : Service σ) (own : Subscription) (hub : Hub BusListener) :
    GuestAction → Hub BusListener
  | .subscribe actions => (hub.subscribe service.bus (.guest actions)).2
  | .leave => (hub.unsubscribe service.bus own).2
  | .switch on => hub.switch service.component on

/-- Notifies one listener. -/
def notify (compilation : Compilation) (service : Service σ) (own : Subscription) :
    BusListener → Running σ → Running σ
  | .enhancement index, running => (enhance compilation index running).1
  | .guest actions, (workspace, build) =>
    ({ workspace with hub := actions.foldl (act service own) workspace.hub }, build)

/-- Notifies the listeners of a service that a compilation ended.  The answer is the report of the
batch, if the service was enabled when the compilation ended. -/
def compilationFinished (compilation : Compilation) (index : Nat) (running : Running σ) :
    Running σ × Option BatchReport :=
  let (workspace, _) := running
  match workspace.services[index]? with
  | none => (running, none)
  | some service =>
    let after := (workspace.hub.bus service.bus).deliver (notify compilation service) running
    if workspace.isEnabled service then
      (after, after.1.services[index]?.bind fun service => service.listener.lastReport)
    else (after, none)

end Workspace
end ClassEnhancement
