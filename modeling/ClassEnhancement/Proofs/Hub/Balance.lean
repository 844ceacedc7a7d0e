import ClassEnhancement.Proofs.Hub.Ledger
import ClassEnhancement.Proofs.Hub.Switching

/-!
# Hubs and their ledgers

Every step keeps a hub in balance with its ledger: a bus holds the direct registrations of the
ledger and one registration for each component that is enabled on it, components are what they were
asked to be, and projects are found under their names.
-/

namespace ClassEnhancement
namespace Hub

variable {α : Type}

open scoped List

/-! ## Registrations of components -/

/-- The registration that a component holds on a bus. -/
def heldOn (bus : Nat) (component : Enablement α) : Option (Nat × α) :=
  if component.bus = bus then
    component.subscription.map fun subscription => (subscription.id, component.listener)
  else none

/-- The registrations that the components of a hub hold on a bus. -/
def enabledOn (hub : Hub α) (bus : Nat) : List (Nat × α) := hub.components.filterMap (heldOn bus)

theorem isSome_heldOn (bus : Nat) (component : Enablement α) :
    (heldOn bus component).isSome = (component.bus == bus && component.isEnabled) := by
  by_cases same : component.bus = bus <;> simp [heldOn, same, Enablement.isEnabled]

/-- The components of a hub that are enabled on a bus, counted. -/
theorem length_enabledOn (hub : Hub α) (bus : Nat) :
    (hub.enabledOn bus).length =
      hub.components.countP fun component => component.bus == bus && component.isEnabled := by
  rw [enabledOn, List.length_filterMap_eq_countP]
  exact congrArg (hub.components.countP ·) (funext (isSome_heldOn bus))

theorem filterMap_split {β γ : Type} (f : β → Option γ) (front : List β) (item : β)
    (back : List β) :
    (front ++ item :: back).filterMap f =
      front.filterMap f ++ ((f item).toList ++ back.filterMap f) := by
  cases held : f item <;> simp [held]

/-- A component that holds another registration trades the old one for it. -/
theorem enabledOn_setSubscription {hub : Hub α} {index : Nat} {component : Enablement α}
    (found : hub.components[index]? = some component) (subscription : Option Subscription)
    (bus : Nat) :
    (heldOn bus component).toList ++ (hub.setSubscription index subscription).enabledOn bus ~
      (heldOn bus { component with subscription }).toList ++ hub.enabledOn bus := by
  obtain ⟨inside, here⟩ := List.getElem?_eq_some_iff.mp found
  obtain ⟨front, held, back, split, length_eq, changed⟩ :=
    List.exists_of_modify (fun component : Enablement α => { component with subscription }) inside
  obtain rfl : held = component := by
    simpa [split, ← length_eq] using here
  rw [enabledOn, enabledOn, setSubscription, changed, split, filterMap_split, filterMap_split]
  generalize (heldOn bus held).toList = old
  generalize (heldOn bus { held with subscription }).toList = new
  calc
    _ ~ old ++ (new ++ (front.filterMap (heldOn bus) ++ back.filterMap (heldOn bus))) :=
      (List.perm_append_comm_assoc _ _ _).append_left old
    _ ~ new ++ (old ++ (front.filterMap (heldOn bus) ++ back.filterMap (heldOn bus))) :=
      List.perm_append_comm_assoc _ _ _
    _ ~ _ := (List.perm_append_comm_assoc _ _ _).append_left new

theorem enabledOn_setSubscription_of_ne (hub : Hub α) {index : Nat} {component : Enablement α}
    (found : hub.components[index]? = some component) {bus : Nat} (elsewhere : component.bus ≠ bus)
    (subscription : Option Subscription) :
    (hub.setSubscription index subscription).enabledOn bus ~ hub.enabledOn bus := by
  simpa [heldOn, elsewhere] using enabledOn_setSubscription found subscription bus

theorem enabledOn_enable (hub : Hub α) {index : Nat} {component : Enablement α}
    (found : hub.components[index]? = some component) (off : component.subscription = none)
    (subscription : Subscription) :
    (hub.setSubscription index (some subscription)).enabledOn component.bus ~
      (subscription.id, component.listener) :: hub.enabledOn component.bus := by
  simpa [heldOn, off] using enabledOn_setSubscription found (some subscription) component.bus

theorem enabledOn_disable (hub : Hub α) {index : Nat} {component : Enablement α}
    (found : hub.components[index]? = some component) {subscription : Subscription}
    (held : component.subscription = some subscription) :
    (subscription.id, component.listener) ::
        (hub.setSubscription index none).enabledOn component.bus ~
      hub.enabledOn component.bus := by
  simpa [heldOn, held] using enabledOn_setSubscription found none component.bus

/-! ## Bookkeeping of one bus -/

theorem filter_id_ne_eq_self {registrations : List (Nat × α)} {id : Nat}
    (absent : id ∉ registrations.map Prod.fst) :
    (registrations.filter fun registration => registration.1 ≠ id) = registrations :=
  List.filter_eq_self.mpr fun registration member => by
    have different : registration.1 ≠ id := fun same => absent (same ▸ List.mem_map_of_mem member)
    simpa using different

/-- Without its number, a registration is gone and the others stay. -/
theorem filter_id_ne_of_perm {registrations others : List (Nat × α)} {registration : Nat × α}
    (listed : registrations ~ registration :: others)
    (distinct : (registrations.map Prod.fst).Nodup) :
    (registrations.filter fun other => other.1 ≠ registration.1) ~ others := by
  have apart : ((registration :: others).map Prod.fst).Nodup :=
    (listed.map Prod.fst).nodup_iff.mp distinct
  have absent : registration.1 ∉ others.map Prod.fst := (List.nodup_cons.mp apart).1
  have kept := listed.filter fun other => other.1 ≠ registration.1
  rwa [List.filter_cons_of_neg (by simp), filter_id_ne_eq_self absent] at kept

/-- What a hub has to do with its ledger. -/
structure Balanced (hub : Hub α) (ledger : Ledger α) : Prop where
  /-- Components are on buses of the hub. -/
  placed : ∀ component ∈ hub.components, component.bus < hub.buses.length
  /-- Projects have components of the hub. -/
  present : ∀ project component, ledger.registered project = some component →
    component < hub.components.length
  /-- Projects are found under their names. -/
  registry : ∀ project, hub.component? project = ledger.registered project
  /-- Components are what they were asked to be. -/
  requested : ∀ component, hub.isEnabled component = ledger.requested component
  /-- A bus holds the direct registrations and those of enabled components, and no others. -/
  registrations : ∀ bus,
    (hub.bus bus).registrations ~ ledger.direct bus ++ hub.enabledOn bus

theorem balanced_empty : (empty : Hub α).Balanced .empty where
  placed := by simp [empty]
  present := by simp [Ledger.empty]
  registry _ := rfl
  requested _ := rfl
  registrations _ := by simp [bus, empty, EventBus.empty, Ledger.empty, enabledOn]

namespace Balanced

variable {hub : Hub α} {ledger : Ledger α}

theorem addBus (balanced : hub.Balanced ledger) : hub.addBus.2.Balanced ledger where
  placed component listed := by
    have inside := balanced.placed component listed
    simp only [Hub.addBus, List.length_append, List.length_singleton]
    omega
  present := balanced.present
  registry := balanced.registry
  requested := balanced.requested
  registrations bus := by
    rw [bus_addBus]
    exact balanced.registrations bus

theorem addComponent (balanced : hub.Balanced ledger) {bus : Nat}
    (inside : bus < hub.buses.length) (listener : α) :
    (hub.addComponent bus listener).2.Balanced ledger where
  placed component listed := by
    rcases List.mem_append.mp listed with old | new
    · exact balanced.placed component old
    · obtain rfl := List.mem_singleton.mp new
      exact inside
  present project component found := by
    have inside := balanced.present project component found
    simp only [Hub.addComponent, List.length_append, List.length_singleton]
    omega
  registry := balanced.registry
  requested component := by
    rw [← balanced.requested component]
    by_cases old : component < hub.components.length
    · simp [isEnabled, Hub.addComponent, List.getElem?_append_left old]
    · rw [isEnabled_of_le (Nat.le_of_not_lt old)]
      simp only [isEnabled, Hub.addComponent, List.getElem?_append_right (Nat.le_of_not_lt old)]
      cases component - hub.components.length <;> rfl
  registrations other := by
    have unchanged : (hub.addComponent bus listener).2.enabledOn other = hub.enabledOn other := by
      simp [enabledOn, Hub.addComponent, heldOn]
    rw [unchanged]
    exact balanced.registrations other

theorem subscribe (balanced : hub.Balanced ledger) {bus : Nat} (inside : bus < hub.buses.length)
    (listener : α) :
    (hub.subscribe bus listener).2.Balanced
      (ledger.subscribe bus (hub.subscribe bus listener).1 listener) where
  placed component listed := by
    simpa [Hub.subscribe] using balanced.placed component listed
  present := balanced.present
  registry := balanced.registry
  requested := balanced.requested
  registrations other := by
    by_cases same : other = bus
    · subst same
      rw [bus_subscribe_self inside, EventBus.registrations_subscribe,
        Ledger.direct_subscribe_self]
      calc
        _ ~ (ledger.direct other ++ hub.enabledOn other) ++ [((hub.bus other).nextId, listener)] :=
          (balanced.registrations other).append_right _
        _ ~ _ := by
          rw [List.append_assoc, List.append_assoc]
          exact List.perm_append_comm.append_left _
    · rw [bus_subscribe_of_ne same, Ledger.direct_subscribe_of_ne same]
      exact balanced.registrations other

theorem unsubscribe (balanced : hub.Balanced ledger) {bus : Nat} {subscription : Subscription}
    (live : subscription.id ∈ (ledger.direct bus).map Prod.fst) :
    (hub.unsubscribe bus subscription).2.Balanced (ledger.unsubscribe bus subscription) where
  placed component listed := by
    simpa [Hub.unsubscribe] using balanced.placed component listed
  present := balanced.present
  registry := balanced.registry
  requested := balanced.requested
  registrations other := by
    by_cases same : other = bus
    · subst same
      have listed := balanced.registrations other
      have inside : other < hub.buses.length := by
        -- Elsewhere nothing is registered, so there is no handle to give up.
        by_contra outside
        rw [bus_of_le (Nat.le_of_not_lt outside)] at listed
        have nothing := List.nil_perm.mp listed
        simp [(List.append_eq_nil_iff.mp nothing).1] at live
      have distinct : ((ledger.direct other ++ hub.enabledOn other).map Prod.fst).Nodup :=
        (listed.map Prod.fst).nodup_iff.mp (hub.bus other).nodup_ids
      rw [List.map_append] at distinct
      -- The number is that of a direct registration, so no component holds it.
      have absent := List.disjoint_of_nodup_append distinct live
      have kept := listed.filter fun registration => registration.1 ≠ subscription.id
      rw [List.filter_append, filter_id_ne_eq_self absent] at kept
      rw [bus_unsubscribe_self inside, EventBus.registrations_unsubscribe,
        Ledger.direct_unsubscribe_self]
      exact kept
    · rw [bus_unsubscribe_of_ne same, Ledger.direct_unsubscribe_of_ne same]
      exact balanced.registrations other

/-- A component that is enabled adds its registration to its bus. -/
theorem registrations_enable (balanced : hub.Balanced ledger) {index : Nat}
    {component : Enablement α} (found : hub.components[index]? = some component)
    (off : component.subscription = none) (bus : Nat) :
    ((hub.subscribe component.bus component.listener).2.bus bus).registrations ~
      ledger.direct bus ++
        ((hub.subscribe component.bus component.listener).2.setSubscription index
          (some (hub.subscribe component.bus component.listener).1)).enabledOn bus := by
  have listed := balanced.registrations bus
  by_cases same : component.bus = bus
  · subst same
    have inside := balanced.placed component (List.mem_of_getElem? found)
    have enabled := enabledOn_enable (hub.subscribe component.bus component.listener).2 found off
      (hub.subscribe component.bus component.listener).1
    rw [bus_subscribe_self inside, EventBus.registrations_subscribe]
    calc
      _ ~ ((hub.bus component.bus).nextId, component.listener) ::
          (ledger.direct component.bus ++ hub.enabledOn component.bus) :=
        List.perm_append_comm.trans (listed.cons _)
      _ ~ ledger.direct component.bus ++ ((hub.bus component.bus).nextId, component.listener) ::
          hub.enabledOn component.bus := List.perm_middle.symm
      _ ~ _ := enabled.symm.append_left _
  · have elsewhere := enabledOn_setSubscription_of_ne
      (hub.subscribe component.bus component.listener).2 found same
      (some (hub.subscribe component.bus component.listener).1)
    rw [bus_subscribe_of_ne (Ne.symm same)]
    exact listed.trans (elsewhere.symm.append_left _)

/-- A component that is disabled takes its registration from its bus. -/
theorem registrations_disable (balanced : hub.Balanced ledger) {index : Nat}
    {component : Enablement α} (found : hub.components[index]? = some component)
    {subscription : Subscription} (held : component.subscription = some subscription) (bus : Nat) :
    ((hub.unsubscribe component.bus subscription).2.bus bus).registrations ~
      ledger.direct bus ++
        ((hub.unsubscribe component.bus subscription).2.setSubscription index none).enabledOn
          bus := by
  have listed := balanced.registrations bus
  by_cases same : component.bus = bus
  · subst same
    have inside := balanced.placed component (List.mem_of_getElem? found)
    have disabled := enabledOn_disable (hub.unsubscribe component.bus subscription).2 found held
    rw [bus_unsubscribe_self inside, EventBus.registrations_unsubscribe]
    have split : (hub.bus component.bus).registrations ~
        (subscription.id, component.listener) :: (ledger.direct component.bus ++
          ((hub.unsubscribe component.bus subscription).2.setSubscription index none).enabledOn
            component.bus) := calc
      _ ~ ledger.direct component.bus ++ hub.enabledOn component.bus := listed
      _ ~ ledger.direct component.bus ++ (subscription.id, component.listener) ::
          ((hub.unsubscribe component.bus subscription).2.setSubscription index none).enabledOn
            component.bus := disabled.symm.append_left _
      _ ~ _ := List.perm_middle
    exact filter_id_ne_of_perm split (hub.bus component.bus).nodup_ids
  · have elsewhere := enabledOn_setSubscription_of_ne
      (hub.unsubscribe component.bus subscription).2 found same none
    rw [bus_unsubscribe_of_ne (Ne.symm same)]
    exact listed.trans (elsewhere.symm.append_left _)

theorem registrations_switch (balanced : hub.Balanced ledger) (index : Nat) (on : Bool)
    (bus : Nat) :
    ((hub.switch index on).bus bus).registrations ~
      ledger.direct bus ++ (hub.switch index on).enabledOn bus := by
  rcases hub.switch_cases index on with ⟨same, -⟩ | ⟨component, found, ⟨off, -, on_eq⟩ |
    ⟨subscription, held, -, off_eq⟩⟩
  · rw [same]
    exact balanced.registrations bus
  · rw [on_eq]
    exact balanced.registrations_enable found off bus
  · rw [off_eq]
    exact balanced.registrations_disable found held bus

theorem switch (balanced : hub.Balanced ledger) {index : Nat}
    (inside : index < hub.components.length) (on : Bool) :
    (hub.switch index on).Balanced (ledger.request index on) where
  placed component listed := by
    obtain ⟨other, found⟩ := List.mem_iff_getElem?.mp listed
    have there : other < hub.components.length := by
      simpa using (List.getElem?_eq_some_iff.mp found).1
    obtain ⟨subscription, switched⟩ := components_switch index on (List.getElem?_eq_getElem there)
    obtain rfl := Option.some.inj (found.symm.trans switched)
    simpa using balanced.placed _ (List.getElem_mem there)
  present project component found := by
    simpa using balanced.present project component found
  registry project := by
    rw [component?, registry_switch]
    exact balanced.registry project
  requested component := by
    by_cases same : component = index
    · subst same
      rw [isEnabled_switch_self inside, Ledger.requested_request_self]
    · rw [isEnabled_switch_of_ne same, Ledger.requested_request_of_ne same]
      exact balanced.requested component
  registrations := balanced.registrations_switch index on

theorem register (balanced : hub.Balanced ledger) (project : String) {component : Nat}
    (inside : component < hub.components.length) :
    (hub.register project component).Balanced (ledger.register project component) where
  placed := balanced.placed
  present other registered found := by
    by_cases same : other = project
    · subst same
      rw [Ledger.registered_register_self] at found
      exact Option.some.inj found ▸ inside
    · rw [Ledger.registered_register_of_ne same] at found
      exact balanced.present other registered found
  registry other := by
    by_cases same : other = project
    · simp [component?, Hub.register, same]
    · rw [component?, Hub.register, OrderedMap.find?_insert_of_ne _ same,
        Ledger.registered_register_of_ne same]
      exact balanced.registry other
  requested := balanced.requested
  registrations := balanced.registrations

/-- A name is forgotten, and nothing else changes. -/
theorem forget (balanced : hub.Balanced ledger) (project : String) :
    ({ hub with registry := hub.registry.erase project } : Hub α).Balanced
      (ledger.forget project) where
  placed := balanced.placed
  present other component found := by
    by_cases same : other = project
    · simp [same] at found
    · rw [Ledger.registered_forget_of_ne same] at found
      exact balanced.present other component found
  registry other := by
    by_cases same : other = project
    · simp [component?, same]
    · rw [component?, OrderedMap.find?_erase_of_ne _ same, Ledger.registered_forget_of_ne same]
      exact balanced.registry other
  requested := balanced.requested
  registrations := balanced.registrations

theorem select (balanced : hub.Balanced ledger) (project : String) (on : Bool) :
    (hub.select project on).Balanced (ledger.select project on) := by
  rw [Hub.select, Ledger.select, balanced.registry project]
  cases found : ledger.registered project with
  | none => exact balanced
  | some component => exact balanced.switch (balanced.present project component found) on

theorem close (balanced : hub.Balanced ledger) (project : String) :
    (hub.close project).2.Balanced (ledger.close project) := by
  rw [Hub.close, Ledger.close, Ledger.select, balanced.registry project]
  cases found : ledger.registered project with
  | none =>
      rw [Ledger.forget_of_unknown found]
      exact balanced
  | some component =>
      exact (balanced.forget project).switch (balanced.present project component found) false

end Balanced

theorem Step.balanced {before after : Hub α × Ledger α} (step : Step before after)
    (balanced : before.1.Balanced before.2) : after.1.Balanced after.2 := by
  cases step with
  | addBus => exact balanced.addBus
  | addComponent _ present listener => exact balanced.addComponent present listener
  | subscribe _ present listener => exact balanced.subscribe present listener
  | unsubscribe _ live => exact balanced.unsubscribe live
  | switch _ present on => exact balanced.switch present on
  | load _ present state => exact balanced.switch present state.enabled
  | projectClosed _ present => exact balanced.switch present false
  | register _ project present => exact balanced.register project present
  | select _ _ project on => exact balanced.select project on
  | close _ _ project => exact balanced.close project

end Hub
end ClassEnhancement
