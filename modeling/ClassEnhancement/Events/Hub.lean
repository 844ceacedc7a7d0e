import ClassEnhancement.Events.Bus
import ClassEnhancement.OrderedMap

/-!
# Enablement components

A component stands for one open project.  It is enabled exactly while it holds a registration of its
listener on its bus.  A hub keeps the buses and components of all projects, and a registry in which
projects are found by name.
-/

namespace ClassEnhancement

/-- The switch of one project. -/
structure Enablement (α : Type) where
  /-- Index of its bus. -/
  bus : Nat
  /-- Its listener. -/
  listener : α
  /-- The registration of the listener, while the component is enabled. -/
  subscription : Option Subscription

/-- Whether a component is enabled. -/
def Enablement.isEnabled {α : Type} (component : Enablement α) : Bool :=
  component.subscription.isSome

/-- Diagnostic text. -/
def Enablement.describe {α : Type} (component : Enablement α) : String :=
  s!"EnablementComponent \x7b enabled: {component.isEnabled}, .. \x7d"

/-- Buses, components and the registry.  Buses and components are known by their index. -/
structure Hub (α : Type) where
  /-- All buses. -/
  buses : List (EventBus α)
  /-- All components. -/
  components : List (Enablement α)
  /-- Indices of components by the names of projects. -/
  registry : OrderedMap String Nat

namespace Hub

variable {α : Type}

/-- A hub without buses and components. -/
def empty : Hub α := ⟨[], [], .empty⟩

instance : Inhabited (Hub α) := ⟨empty⟩

/-! ## Buses -/

/-- Adds a bus. -/
def addBus (hub : Hub α) : Nat × Hub α :=
  (hub.buses.length, { hub with buses := hub.buses ++ [.empty] })

/-- A bus. -/
def bus (hub : Hub α) (index : Nat) : EventBus α := hub.buses[index]?.getD .empty

/-- The hub with another state of a bus. -/
def setBus (hub : Hub α) (index : Nat) (bus : EventBus α) : Hub α :=
  { hub with buses := hub.buses.set index bus }

/-- Registers a listener on a bus. -/
def subscribe (hub : Hub α) (index : Nat) (listener : α) : Subscription × Hub α :=
  let (subscription, bus) := (hub.bus index).subscribe listener
  (subscription, hub.setBus index bus)

/-- Removes a registration from a bus. -/
def unsubscribe (hub : Hub α) (index : Nat) (subscription : Subscription) : Bool × Hub α :=
  let (removed, bus) := (hub.bus index).unsubscribe subscription
  (removed, hub.setBus index bus)

/-! ## Components -/

/-- Adds a component, which is disabled at first. -/
def addComponent (hub : Hub α) (bus : Nat) (listener : α) : Nat × Hub α :=
  (hub.components.length, { hub with components := hub.components ++ [⟨bus, listener, none⟩] })

/-- Whether a component is enabled. -/
def isEnabled (hub : Hub α) (index : Nat) : Bool :=
  hub.components[index]?.any Enablement.isEnabled

/-- The hub with another registration held by a component. -/
def setSubscription (hub : Hub α) (index : Nat) (subscription : Option Subscription) : Hub α :=
  { hub with
    components := hub.components.modify index fun component => { component with subscription } }

/-- Switches a component.  Nothing happens if it is in that state already. -/
def switch (hub : Hub α) (index : Nat) (on : Bool) : Hub α :=
  match hub.components[index]? with
  | none => hub
  | some component =>
    match component.subscription, on with
    | none, true =>
      let (subscription, hub) := hub.subscribe component.bus component.listener
      hub.setSubscription index (some subscription)
    | some subscription, false =>
      (hub.unsubscribe component.bus subscription).2.setSubscription index none
    | _, _ => hub

/-! ## The registry -/

/-- Registers a component for a project, in place of any other. -/
def register (hub : Hub α) (project : String) (component : Nat) : Hub α :=
  { hub with registry := hub.registry.insert project component }

/-- The component of a project. -/
def component? (hub : Hub α) (project : String) : Option Nat := hub.registry.find? project

/-- Forgets a project and disables its component. -/
def close (hub : Hub α) (project : String) : Option Nat × Hub α :=
  match hub.component? project with
  | none => (none, hub)
  | some component =>
    (some component,
      { hub with registry := hub.registry.erase project }.switch component false)

/-- Whether the component of a project is enabled; an unknown project is not selected. -/
def isSelected (hub : Hub α) (project : String) : Bool :=
  (hub.component? project).any hub.isEnabled

/-- Switches the component of a project, if it is known. -/
def select (hub : Hub α) (project : String) (on : Bool) : Hub α :=
  match hub.component? project with
  | none => hub
  | some component => hub.switch component on

end Hub
end ClassEnhancement
