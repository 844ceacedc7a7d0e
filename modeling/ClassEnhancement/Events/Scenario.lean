import ClassEnhancement.Events.Hub
import ClassEnhancement.Settings.State

/-!
# Scenarios

A scenario is a sequence of steps on buses, handles, components and projects that go by names.  A
listener of a scenario records that it is notified and then takes steps of its own, which may notify
further listeners, down to a bounded level.
-/

namespace ClassEnhancement
namespace Scenario

/-- A step. -/
inductive Step where
  /-- Registers a listener, with its label and its own steps, under the name of a handle. -/
  | subscribe (bus handle label : String) (steps : List Step)
  /-- Uses up a handle on a bus. -/
  | unsubscribe (bus handle : String)
  /-- Counts the registrations on a bus. -/
  | count (bus : String)
  /-- Notifies the listeners of a bus that a project has compiled a number of classes. -/
  | fire (bus project : String) (classes : Nat)
  /-- Makes a component on a bus, with the label and the steps of its listener. -/
  | component (name bus label : String) (steps : List Step)
  /-- Switches a component. -/
  | switch (component : String) (on : Bool)
  /-- Asks for the state of a component. -/
  | state (component : String)
  /-- Switches a component as a document tells. -/
  | load (component document : String)
  /-- Tells a component that its project is closed. -/
  | projectClosed (component : String)
  /-- Asks for the diagnostic text of a component. -/
  | describeComponent (component : String)
  /-- Asks for the diagnostic text of a bus. -/
  | describeBus (bus : String)
  /-- Registers a component for a project. -/
  | register (project component : String)
  /-- Asks for the size of the registry. -/
  | registry
  /-- Asks for the component of a project. -/
  | registered (project : String)
  /-- Closes a project. -/
  | close (project : String)
  /-- Switches a project. -/
  | select (project : String) (on : Bool)
  /-- Asks whether a project is selected. -/
  | selected (project : String)
  deriving Repr, Inhabited

/-- A listener. -/
structure Guest where
  /-- What it is called when it is notified. -/
  label : String
  /-- What it does then. -/
  steps : List Step
  deriving Repr

/-- One notification. -/
structure Notification where
  /-- Label of the listener. -/
  label : String
  /-- The project that was compiled. -/
  project : String
  /-- Number of its classes. -/
  classes : Nat
  deriving DecidableEq, Repr

/-- The answer to a step. -/
inductive Reply where
  /-- Nothing. -/
  | nothing
  /-- A number. -/
  | number (value : Nat)
  /-- A truth value. -/
  | truth (value : Bool)
  /-- The state of a component. -/
  | state (state : EnhancementState)
  /-- A text. -/
  | text (value : String)
  /-- The size of the registry. -/
  | size (value : Nat)
  /-- Notifications, in order. -/
  | notifications (listed : List Notification)
  /-- There is no component of that name. -/
  | noComponent
  /-- The document tells no state. -/
  | invalidDocument
  deriving DecidableEq, Repr

/-- A scenario while it runs. -/
structure World where
  /-- Buses, components and the registry. -/
  hub : Hub Guest
  /-- Indices of buses by name. -/
  buses : OrderedMap String Nat
  /-- Handles by name. -/
  handles : OrderedMap String Subscription
  /-- Indices of components by name. -/
  components : OrderedMap String Nat
  /-- All notifications so far. -/
  notified : List Notification

namespace World

/-- The world in which a scenario begins. -/
def empty : World := ⟨.empty, .empty, .empty, .empty, []⟩

/-- The index of a bus, which is made on first use. -/
def withBus (world : World) (name : String) : Nat × World :=
  match world.buses.find? name with
  | some index => (index, world)
  | none =>
    let (index, hub) := world.hub.addBus
    (index, { world with hub, buses := world.buses.insert name index })

/-- Does something with a component, if there is one of that name. -/
def onComponent (world : World) (name : String) (act : Nat → World × Reply) : World × Reply :=
  match world.components.find? name with
  | some index => act index
  | none => (world, .noComponent)

/-- Switches a component and answers by its state. -/
def switched (world : World) (on : Bool) (answer : Bool → Reply) (index : Nat) : World × Reply :=
  let hub := world.hub.switch index on
  ({ world with hub }, answer (hub.isEnabled index))

/-- The state of a component as an answer. -/
def stateReply (enabled : Bool) : Reply := .state ⟨enabled⟩

/-- The state of a component that may be missing. -/
def optionalState (hub : Hub Guest) : Option Nat → Reply
  | some index => .truth (hub.isEnabled index)
  | none => .nothing

/-- Takes a step that notifies nobody. -/
def apply (world : World) : Step → World × Reply
  | .subscribe bus handle label steps =>
    let (index, world) := world.withBus bus
    let (subscription, hub) := world.hub.subscribe index ⟨label, steps⟩
    ({ world with hub, handles := world.handles.insert handle subscription },
      .number subscription.id)
  | .unsubscribe bus handle =>
    match world.handles.find? handle with
    | none => (world, .nothing)
    | some subscription =>
      let (index, world) := world.withBus bus
      let (removed, hub) := world.hub.unsubscribe index subscription
      ({ world with hub, handles := world.handles.erase handle }, .truth removed)
  | .count bus =>
    let (index, world) := world.withBus bus
    (world, .number (world.hub.bus index).count)
  | .fire _ _ _ => (world, .notifications [])
  | .component name bus label steps =>
    let (index, world) := world.withBus bus
    let (component, hub) := world.hub.addComponent index ⟨label, steps⟩
    ({ world with hub, components := world.components.insert name component }, .nothing)
  | .switch component on => world.onComponent component (world.switched on .truth)
  | .state component =>
    world.onComponent component fun index => (world, stateReply (world.hub.isEnabled index))
  | .load component document =>
    match EnhancementState.ofText? document with
    | none => (world, .invalidDocument)
    | some state => world.onComponent component (world.switched state.enabled stateReply)
  | .projectClosed component => world.onComponent component (world.switched false .truth)
  | .describeComponent component =>
    world.onComponent component fun index =>
      match world.hub.components[index]? with
      | some component => (world, .text component.describe)
      | none => (world, .noComponent)
  | .describeBus bus =>
    let (index, world) := world.withBus bus
    (world, .text (world.hub.bus index).describe)
  | .register project component =>
    world.onComponent component fun index =>
      let hub := world.hub.register project index
      ({ world with hub }, .number hub.registry.size)
  | .registry => (world, .size world.hub.registry.size)
  | .registered project => (world, optionalState world.hub (world.hub.component? project))
  | .close project =>
    let (component, hub) := world.hub.close project
    ({ world with hub }, optionalState hub component)
  | .select project on =>
    let hub := world.hub.select project on
    ({ world with hub }, .truth (hub.isSelected project))
  | .selected project => (world, .truth (world.hub.isSelected project))

/-- Records a notification of a listener, which then takes its steps. -/
def notify (run : Step → World → World × Reply) (project : String) (classes : Nat) (guest : Guest)
    (world : World) : World :=
  guest.steps.foldl (fun world step => (run step world).1)
    { world with notified := world.notified ++ [⟨guest.label, project, classes⟩] }

/-- Takes a step that may notify listeners down to a number of levels. -/
def run (levels : Nat) (step : Step) (world : World) : World × Reply :=
  match levels, step with
  | levels + 1, .fire bus project classes =>
    let (index, world) := world.withBus bus
    let after :=
      (world.hub.bus index).deliver
        (fun _ => notify (fun step world => run levels step world) project classes) world
    (after, .notifications (after.notified.drop world.notified.length))
  | _, step => world.apply step

end World

/-- The number of levels to which listeners may notify listeners. -/
def levels : Nat := 3

end Scenario
end ClassEnhancement
