import ClassEnhancement.Events.Hub
import ClassEnhancement.Settings.State
import Mathlib.Logic.Function.Basic
import Mathlib.Logic.Relation

/-!
# Ledgers of a hub

A ledger notes what is asked of a hub, without looking at its buses: which direct registrations were
not given up, what each component was asked to be, and which component each project has.  A step is
one thing asked of a hub, together with its entry in the ledger.
-/

namespace ClassEnhancement

/-- What was asked of a hub. -/
structure Ledger (α : Type) where
  /-- Direct registrations on each bus that were not given up. -/
  direct : Nat → List (Nat × α)
  /-- What each component was last asked to be. -/
  requested : Nat → Bool
  /-- The component of each project. -/
  registered : String → Option Nat

namespace Ledger

variable {α : Type}

/-- The ledger of an empty hub. -/
def empty : Ledger α := ⟨fun _ => [], fun _ => false, fun _ => none⟩

/-- A direct registration is made. -/
def subscribe (ledger : Ledger α) (bus : Nat) (subscription : Subscription) (listener : α) :
    Ledger α :=
  { ledger with
    direct := Function.update ledger.direct bus
      (ledger.direct bus ++ [(subscription.id, listener)]) }

/-- A direct registration is given up. -/
def unsubscribe (ledger : Ledger α) (bus : Nat) (subscription : Subscription) : Ledger α :=
  { ledger with
    direct := Function.update ledger.direct bus
      ((ledger.direct bus).filter fun registration => registration.1 ≠ subscription.id) }

/-- A component is asked to be on or off. -/
def request (ledger : Ledger α) (component : Nat) (on : Bool) : Ledger α :=
  { ledger with requested := Function.update ledger.requested component on }

/-- The component of a project is asked to be on or off, if the project is known. -/
def select (ledger : Ledger α) (project : String) (on : Bool) : Ledger α :=
  match ledger.registered project with
  | none => ledger
  | some component => ledger.request component on

/-- A project gets a component. -/
def register (ledger : Ledger α) (project : String) (component : Nat) : Ledger α :=
  { ledger with registered := Function.update ledger.registered project (some component) }

/-- A project loses its component. -/
def forget (ledger : Ledger α) (project : String) : Ledger α :=
  { ledger with registered := Function.update ledger.registered project none }

/-- A project is forgotten, and its component is asked to be off. -/
def close (ledger : Ledger α) (project : String) : Ledger α :=
  (ledger.select project false).forget project

variable {ledger : Ledger α} {bus other : Nat}

@[simp]
theorem direct_subscribe_self (ledger : Ledger α) (bus : Nat) (subscription : Subscription)
    (listener : α) :
    (ledger.subscribe bus subscription listener).direct bus =
      ledger.direct bus ++ [(subscription.id, listener)] := by
  simp [subscribe]

theorem direct_subscribe_of_ne (different : other ≠ bus) (subscription : Subscription)
    (listener : α) :
    (ledger.subscribe bus subscription listener).direct other = ledger.direct other := by
  simp [subscribe, different]

@[simp]
theorem direct_unsubscribe_self (ledger : Ledger α) (bus : Nat) (subscription : Subscription) :
    (ledger.unsubscribe bus subscription).direct bus =
      (ledger.direct bus).filter fun registration => registration.1 ≠ subscription.id := by
  simp [unsubscribe]

theorem direct_unsubscribe_of_ne (different : other ≠ bus) (subscription : Subscription) :
    (ledger.unsubscribe bus subscription).direct other = ledger.direct other := by
  simp [unsubscribe, different]

@[simp]
theorem requested_request_self (ledger : Ledger α) (component : Nat) (on : Bool) :
    (ledger.request component on).requested component = on := by
  simp [request]

theorem requested_request_of_ne {component other : Nat} (different : other ≠ component)
    (on : Bool) :
    (ledger.request component on).requested other = ledger.requested other := by
  simp [request, different]

@[simp]
theorem registered_register_self (ledger : Ledger α) (project : String) (component : Nat) :
    (ledger.register project component).registered project = some component := by
  simp [register]

theorem registered_register_of_ne {project other : String} (different : other ≠ project)
    (component : Nat) :
    (ledger.register project component).registered other = ledger.registered other := by
  simp [register, different]

@[simp]
theorem registered_forget_self (ledger : Ledger α) (project : String) :
    (ledger.forget project).registered project = none := by
  simp [forget]

theorem registered_forget_of_ne {project other : String} (different : other ≠ project) :
    (ledger.forget project).registered other = ledger.registered other := by
  simp [forget, different]

theorem forget_of_unknown {project : String} (unknown : ledger.registered project = none) :
    ledger.forget project = ledger := by
  rw [forget, ← unknown, Function.update_eq_self]

end Ledger

namespace Hub

variable {α : Type}

/-! ## Steps -/

/-- One thing asked of a hub, and its entry in the ledger.  Only a registration that was made
directly and not given up has a handle to give up. -/
inductive Step : Hub α × Ledger α → Hub α × Ledger α → Prop
  /-- A bus is added. -/
  | addBus (hub : Hub α) (ledger : Ledger α) : Step (hub, ledger) (hub.addBus.2, ledger)
  /-- A component is added on a bus. -/
  | addComponent {hub : Hub α} (ledger : Ledger α) {bus : Nat} (present : bus < hub.buses.length)
      (listener : α) : Step (hub, ledger) ((hub.addComponent bus listener).2, ledger)
  /-- A listener is registered directly. -/
  | subscribe {hub : Hub α} (ledger : Ledger α) {bus : Nat} (present : bus < hub.buses.length)
      (listener : α) :
      Step (hub, ledger) ((hub.subscribe bus listener).2,
        ledger.subscribe bus (hub.subscribe bus listener).1 listener)
  /-- A direct registration is given up. -/
  | unsubscribe (hub : Hub α) {ledger : Ledger α} {bus : Nat} {subscription : Subscription}
      (live : subscription.id ∈ (ledger.direct bus).map Prod.fst) :
      Step (hub, ledger) ((hub.unsubscribe bus subscription).2,
        ledger.unsubscribe bus subscription)
  /-- A component is switched. -/
  | switch {hub : Hub α} (ledger : Ledger α) {component : Nat}
      (present : component < hub.components.length) (on : Bool) :
      Step (hub, ledger) (hub.switch component on, ledger.request component on)
  /-- A component takes over a stored state. -/
  | load {hub : Hub α} (ledger : Ledger α) {component : Nat}
      (present : component < hub.components.length) (state : EnhancementState) :
      Step (hub, ledger) (hub.switch component state.enabled,
        ledger.request component state.enabled)
  /-- A component is told that its project is closed. -/
  | projectClosed {hub : Hub α} (ledger : Ledger α) {component : Nat}
      (present : component < hub.components.length) :
      Step (hub, ledger) (hub.switch component false, ledger.request component false)
  /-- A component is registered for a project. -/
  | register {hub : Hub α} (ledger : Ledger α) (project : String) {component : Nat}
      (present : component < hub.components.length) :
      Step (hub, ledger) (hub.register project component, ledger.register project component)
  /-- A project is switched. -/
  | select (hub : Hub α) (ledger : Ledger α) (project : String) (on : Bool) :
      Step (hub, ledger) (hub.select project on, ledger.select project on)
  /-- A project is closed. -/
  | close (hub : Hub α) (ledger : Ledger α) (project : String) :
      Step (hub, ledger) ((hub.close project).2, ledger.close project)

/-- Any number of steps. -/
abbrev Reaches : Hub α × Ledger α → Hub α × Ledger α → Prop := Relation.ReflTransGen Step

end Hub
end ClassEnhancement
