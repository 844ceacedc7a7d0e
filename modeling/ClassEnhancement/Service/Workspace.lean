import ClassEnhancement.Build.Model
import ClassEnhancement.Enhance.Listener
import ClassEnhancement.Events.Hub
import ClassEnhancement.Manifest.Discovery
import ClassEnhancement.Service.Error

/-!
# Services

A service stands for one open project: its settings, its bus with the enhancement listener, the
component that switches the listener, and the file that keeps the switch between sessions.  A
workspace holds all services that were ever opened, with the hub that they share.
-/

namespace ClassEnhancement

/-- What a guest on the bus of a service does when it is notified. -/
inductive GuestAction where
  /-- Registers another guest. -/
  | subscribe (actions : List GuestAction)
  /-- Gives up its own registration. -/
  | leave
  /-- Switches the service. -/
  | switch (on : Bool)
  deriving Repr

/-- A listener on the bus of a service. -/
inductive BusListener where
  /-- The enhancement listener of a service. -/
  | enhancement (service : Nat)
  /-- A guest. -/
  | guest (actions : List GuestAction)
  deriving Repr

/-- A service. -/
structure Service (σ : Type) where
  /-- Directory of the project. -/
  root : FilePath
  /-- Settings of the project. -/
  config : ProjectConfig
  /-- Index of its bus. -/
  bus : Nat
  /-- Index of its component. -/
  component : Nat
  /-- Its listener. -/
  listener : EnhancementListener σ
  /-- The file that keeps the switch. -/
  settings : SettingsStore

/-- All services, their hub, and the state of the transformers that they share. -/
structure Workspace (σ : Type) where
  /-- Buses, components and the registry. -/
  hub : Hub BusListener
  /-- Services in the order in which they were opened. -/
  services : List (Service σ)
  /-- State of the transformers. -/
  agent : σ

namespace Workspace

variable {σ : Type}

/-- A workspace in which nothing was opened. -/
def empty (agent : σ) : Workspace σ := ⟨.empty, [], agent⟩

/-! ## Opening -/

/-- Adds a service in a state; its component and bus are its own. -/
def addService (workspace : Workspace σ) (root : FilePath) (config : ProjectConfig)
    (factory : TransformerFactory σ) (settings : SettingsStore) (state : EnhancementState) :
    Nat × Workspace σ :=
  let index := workspace.services.length
  let (bus, hub) := workspace.hub.addBus
  let (component, hub) := hub.addComponent bus (.enhancement index)
  let listener := EnhancementListener.new factory config.enhance
  (index,
    { workspace with
      hub := hub.switch component state.enabled
      services := workspace.services ++ [⟨root, config, bus, component, listener, settings⟩] })

/-- Opens a project with given settings; the switch is as it was stored. -/
def openWith (workspace : Workspace σ) (tree : FileTree) (root : FilePath)
    (config : ProjectConfig) (factory : TransformerFactory σ) :
    Except ServiceError (Nat × Workspace σ) :=
  let settings : SettingsStore := ⟨config.settingsFile root⟩
  match settings.load tree with
  | .error error => .error (.settings error)
  | .ok state =>
    .ok (workspace.addService root config factory settings (state.getD ⟨false⟩))

/-- Opens a project with the settings in its directory. -/
def openAt (workspace : Workspace σ) (tree : FileTree) (root : FilePath)
    (factory : TransformerFactory σ) : Except ServiceError (Nat × Workspace σ) :=
  match ProjectConfig.load tree root with
  | .error error => .error (.config error)
  | .ok config => workspace.openWith tree root config factory

/-! ## Asking and switching -/

/-- Whether a service is enabled. -/
def isEnabled (workspace : Workspace σ) (service : Service σ) : Bool :=
  workspace.hub.isEnabled service.component

/-- Number of registrations on the bus of a service. -/
def listenerCount (workspace : Workspace σ) (service : Service σ) : Nat :=
  (workspace.hub.bus service.bus).count

/-- Stores the switch of a service. -/
def save (workspace : Workspace σ) (tree : FileTree) (service : Service σ) :
    FileTree × Except ServiceError Unit :=
  match service.settings.save tree ⟨workspace.isEnabled service⟩ with
  | (tree, .ok _) => (tree, .ok ())
  | (tree, .error error) => (tree, .error (.settings error))

/-- Switches a service, and then stores its switch. -/
def setEnabled (workspace : Workspace σ) (tree : FileTree) (service : Service σ) (on : Bool) :
    Workspace σ × FileTree × Except ServiceError Unit :=
  let switched := { workspace with hub := workspace.hub.switch service.component on }
  (switched, switched.save tree service)

/-- Closes a service: its switch is stored, and then its component is disabled. -/
def close (workspace : Workspace σ) (tree : FileTree) (service : Service σ) :
    Workspace σ × FileTree × Except ServiceError Unit :=
  ({ workspace with hub := workspace.hub.switch service.component false },
    workspace.save tree service)

/-! ## The registry -/

/-- Registers a service under a name. -/
def register (workspace : Workspace σ) (service : Service σ) (name : String) : Workspace σ :=
  { workspace with hub := workspace.hub.register name service.component }

/-- Closes the component of a name, and tells whether it is enabled then. -/
def closeNamed (workspace : Workspace σ) (name : String) : Option Bool × Workspace σ :=
  let (component, hub) := workspace.hub.close name
  (component.map hub.isEnabled, { workspace with hub })

/-- Switches the component of a name. -/
def select (workspace : Workspace σ) (name : String) (on : Bool) : Workspace σ :=
  { workspace with hub := workspace.hub.select name on }

/-! ## Diagnostic texts -/

/-- Diagnostic text of a service. -/
def describe (workspace : Workspace σ) (service : Service σ) : String :=
  s!"EnhancementService \x7b root: {Text.quoted service.root.text}, "
    ++ s!"enabled: {workspace.isEnabled service}, "
    ++ s!"listeners: {workspace.listenerCount service}, .. \x7d"

/-- Diagnostic text of the component of a service. -/
def describeComponent (workspace : Workspace σ) (service : Service σ) : String :=
  match workspace.hub.components[service.component]? with
  | some component => component.describe
  | none => ""

end Workspace

namespace Service

variable {σ : Type}

/-- The model of the project, as its files are. -/
def buildProject (service : Service σ) (tree : FileTree) : Except ServiceError Project :=
  match service.config.buildProject tree service.root with
  | .ok project => .ok project
  | .error error => .error (.config error)

/-- The packages that the next batch would deal with. -/
def discover (service : Service σ) (context : BuildContext) (tree : FileTree) : Discovery :=
  Discovery.ofProject context tree service.config.enhance.manifest

end Service
end ClassEnhancement
