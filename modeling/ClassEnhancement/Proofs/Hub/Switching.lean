import ClassEnhancement.Events.Hub
import Mathlib.Data.List.Nodup

/-!
# Switching a component

What each operation does to the buses and to the components of a hub.  Switching a component adds
the registration of its listener, takes it away, or changes nothing.
-/

namespace ClassEnhancement

namespace EventBus

variable {α : Type}

theorem nodup_ids (bus : EventBus α) : bus.ids.Nodup := bus.increasing.imp Nat.ne_of_lt

theorem id_lt_nextId {bus : EventBus α} {registration : Nat × α}
    (registered : registration ∈ bus.registrations) : registration.1 < bus.nextId :=
  bus.below _ (List.mem_map_of_mem registered)

/-- A number names one registration. -/
theorem eq_of_same_id {bus : EventBus α} {left right : Nat × α} (first : left ∈ bus.registrations)
    (second : right ∈ bus.registrations) (same : left.1 = right.1) : left = right :=
  List.inj_on_of_nodup_map bus.nodup_ids first second same

/-- A registration stands between others, which have other numbers. -/
theorem split_of_mem {bus : EventBus α} {registration : Nat × α}
    (registered : registration ∈ bus.registrations) :
    ∃ front back, bus.registrations = front ++ registration :: back ∧
      ∀ other ∈ front ++ back, other.1 ≠ registration.1 := by
  obtain ⟨front, back, split⟩ := List.append_of_mem registered
  have distinct := bus.nodup_ids
  rw [ids, split, List.map_append, List.map_cons, List.nodup_middle, List.nodup_cons] at distinct
  refine ⟨front, back, split, fun other listed same => distinct.1 ?_⟩
  rw [← List.map_append, ← same]
  exact List.mem_map_of_mem listed

theorem eq_of_registrations {left right : EventBus α}
    (listed : left.registrations = right.registrations) (next : left.nextId = right.nextId) :
    left = right := by
  cases left
  cases right
  simp only at listed next
  subst listed next
  rfl

/-- A bus answers whether it has a registration of that number. -/
theorem unsubscribe_eq_true_iff {bus : EventBus α} {subscription : Subscription} :
    (bus.unsubscribe subscription).1 = true ↔
      ∃ registration ∈ bus.registrations, registration.1 = subscription.id := by
  simp [unsubscribe, ids]

theorem unsubscribe_eq_false_iff {bus : EventBus α} {subscription : Subscription} :
    (bus.unsubscribe subscription).1 = false ↔
      ∀ registration ∈ bus.registrations, registration.1 ≠ subscription.id := by
  rw [← Bool.not_eq_true, unsubscribe_eq_true_iff]
  simp only [not_exists, not_and, ne_eq]

theorem mem_registrations_unsubscribe {bus : EventBus α} {subscription : Subscription}
    {registration : Nat × α} :
    registration ∈ (bus.unsubscribe subscription).2.registrations ↔
      registration ∈ bus.registrations ∧ registration.1 ≠ subscription.id := by
  simp [registrations_unsubscribe]

/-- A number that no registration has leaves the bus as it is. -/
theorem unsubscribe_of_absent {bus : EventBus α} {subscription : Subscription}
    (absent : ∀ registration ∈ bus.registrations, registration.1 ≠ subscription.id) :
    (bus.unsubscribe subscription).2 = bus :=
  eq_of_registrations (List.filter_eq_self.mpr fun registration listed =>
    decide_eq_true (absent registration listed)) rfl

@[simp]
theorem nextId_subscribe (bus : EventBus α) (listener : α) :
    (bus.subscribe listener).2.nextId = bus.nextId + 1 := rfl

@[simp]
theorem nextId_unsubscribe (bus : EventBus α) (subscription : Subscription) :
    (bus.unsubscribe subscription).2.nextId = bus.nextId := rfl

end EventBus

namespace Hub

variable {α : Type} {hub : Hub α} {index other : Nat}

/-! ## Buses -/

theorem bus_of_le (outside : hub.buses.length ≤ index) : hub.bus index = .empty := by
  simp [bus, List.getElem?_eq_none outside]

@[simp]
theorem bus_addBus (hub : Hub α) (index : Nat) : hub.addBus.2.bus index = hub.bus index := by
  by_cases inside : index < hub.buses.length
  · simp [bus, addBus, List.getElem?_append_left inside]
  · rw [bus_of_le (Nat.le_of_not_lt inside)]
    simp only [bus, addBus, List.getElem?_append_right (Nat.le_of_not_lt inside)]
    cases index - hub.buses.length <;> rfl

theorem bus_setBus_self (inside : index < hub.buses.length) (bus : EventBus α) :
    (hub.setBus index bus).bus index = bus := by
  simp [Hub.bus, setBus, inside]

theorem bus_setBus_of_ne (different : other ≠ index) (bus : EventBus α) :
    (hub.setBus index bus).bus other = hub.bus other := by
  simp [Hub.bus, setBus, List.getElem?_set_ne different.symm]

@[simp]
theorem length_buses_setBus (hub : Hub α) (index : Nat) (bus : EventBus α) :
    (hub.setBus index bus).buses.length = hub.buses.length := by
  simp [setBus]

/-- Only the bus that is set can be another one. -/
theorem bus_setBus_cases (hub : Hub α) (index : Nat) (bus : EventBus α) (other : Nat) :
    (hub.setBus index bus).bus other = hub.bus other ∨
      other = index ∧ (hub.setBus index bus).bus other = bus := by
  by_cases same : other = index
  · subst same
    by_cases inside : other < hub.buses.length
    · exact .inr ⟨rfl, bus_setBus_self inside bus⟩
    · have outside := Nat.le_of_not_lt inside
      exact .inl (by rw [bus_of_le outside, bus_of_le (by simpa using outside)])
  · exact .inl (bus_setBus_of_ne same bus)

theorem bus_subscribe_self (inside : index < hub.buses.length) (listener : α) :
    (hub.subscribe index listener).2.bus index = ((hub.bus index).subscribe listener).2 :=
  bus_setBus_self inside _

theorem bus_subscribe_of_ne (different : other ≠ index) (listener : α) :
    (hub.subscribe index listener).2.bus other = hub.bus other :=
  bus_setBus_of_ne different _

theorem bus_unsubscribe_self (inside : index < hub.buses.length) (subscription : Subscription) :
    (hub.unsubscribe index subscription).2.bus index =
      ((hub.bus index).unsubscribe subscription).2 :=
  bus_setBus_self inside _

theorem bus_unsubscribe_of_ne (different : other ≠ index) (subscription : Subscription) :
    (hub.unsubscribe index subscription).2.bus other = hub.bus other :=
  bus_setBus_of_ne different _

theorem unsubscribe_of_absent {subscription : Subscription}
    (absent : ∀ registration ∈ (hub.bus index).registrations, registration.1 ≠ subscription.id) :
    (hub.unsubscribe index subscription).2 = hub := by
  have same := EventBus.unsubscribe_of_absent absent
  have kept : hub.buses.set index (hub.bus index) = hub.buses := by
    by_cases inside : index < hub.buses.length
    · simp [bus, inside]
    · exact List.set_eq_of_length_le (Nat.le_of_not_lt inside)
  simp only [unsubscribe, same, setBus, kept]

theorem mem_registrations_unsubscribe {subscription : Subscription} {registration : Nat × α} :
    registration ∈ ((hub.unsubscribe index subscription).2.bus index).registrations ↔
      registration ∈ (hub.bus index).registrations ∧ registration.1 ≠ subscription.id := by
  by_cases inside : index < hub.buses.length
  · rw [bus_unsubscribe_self inside, EventBus.mem_registrations_unsubscribe]
  · have outside := Nat.le_of_not_lt inside
    rw [bus_of_le (by simpa [unsubscribe] using outside), bus_of_le outside]
    simp [EventBus.empty]

/-! ## Components -/

@[simp]
theorem bus_setSubscription (hub : Hub α) (index : Nat) (subscription : Option Subscription)
    (other : Nat) : (hub.setSubscription index subscription).bus other = hub.bus other := rfl

theorem components_setSubscription_self {component : Enablement α}
    (found : hub.components[index]? = some component) (subscription : Option Subscription) :
    (hub.setSubscription index subscription).components[index]? =
      some { component with subscription } := by
  simp [setSubscription, found]

theorem components_setSubscription_of_ne (different : other ≠ index)
    (subscription : Option Subscription) :
    (hub.setSubscription index subscription).components[other]? = hub.components[other]? := by
  simp [setSubscription, different.symm]

/-- Everything that switching a component can do. -/
theorem switch_cases (hub : Hub α) (index : Nat) (on : Bool) :
    (hub.switch index on = hub ∧
        ∀ component, hub.components[index]? = some component → component.isEnabled = on) ∨
      ∃ component, hub.components[index]? = some component ∧
        (component.subscription = none ∧ on = true ∧
            hub.switch index on =
              (hub.subscribe component.bus component.listener).2.setSubscription index
                (some (hub.subscribe component.bus component.listener).1) ∨
          ∃ subscription, component.subscription = some subscription ∧ on = false ∧
            hub.switch index on =
              (hub.unsubscribe component.bus subscription).2.setSubscription index none) := by
  cases found : hub.components[index]? with
  | none => exact .inl ⟨by simp [switch, found], nofun⟩
  | some component =>
      cases held : component.subscription with
      | none =>
          cases on with
          | true => exact .inr ⟨component, rfl, .inl ⟨held, rfl, by simp [switch, found, held]⟩⟩
          | false =>
              refine .inl ⟨by simp [switch, found, held], fun other same => ?_⟩
              simp [Enablement.isEnabled, ← Option.some.inj same, held]
      | some subscription =>
          cases on with
          | true =>
              refine .inl ⟨by simp [switch, found, held], fun other same => ?_⟩
              simp [Enablement.isEnabled, ← Option.some.inj same, held]
          | false =>
              exact .inr ⟨component, rfl,
                .inr ⟨subscription, held, rfl, by simp [switch, found, held]⟩⟩

theorem isEnabled_of_components {component : Enablement α}
    (found : hub.components[index]? = some component) :
    hub.isEnabled index = component.isEnabled := by
  simp [isEnabled, found]

theorem isEnabled_of_le (outside : hub.components.length ≤ index) :
    hub.isEnabled index = false := by
  simp [isEnabled, List.getElem?_eq_none outside]

/-- Switching touches no other component. -/
theorem components_switch_of_ne (different : other ≠ index) (on : Bool) :
    (hub.switch index on).components[other]? = hub.components[other]? := by
  rcases hub.switch_cases index on with ⟨same, -⟩ | ⟨component, -, ⟨-, -, on_eq⟩ |
    ⟨subscription, -, -, off_eq⟩⟩
  · rw [same]
  · rw [on_eq, components_setSubscription_of_ne different]
    rfl
  · rw [off_eq, components_setSubscription_of_ne different]
    rfl

/-- Switching touches no bus but that of the component. -/
theorem bus_switch_of_ne {bus : Nat} (on : Bool)
    (elsewhere : ∀ component, hub.components[index]? = some component → component.bus ≠ bus) :
    (hub.switch index on).bus bus = hub.bus bus := by
  rcases hub.switch_cases index on with ⟨same, -⟩ | ⟨component, found, ⟨-, -, on_eq⟩ |
    ⟨subscription, -, -, off_eq⟩⟩
  · rw [same]
  · rw [on_eq, bus_setSubscription, bus_subscribe_of_ne (elsewhere component found).symm]
  · rw [off_eq, bus_setSubscription, bus_unsubscribe_of_ne (elsewhere component found).symm]

/-- A component is what it was switched to. -/
theorem isEnabled_switch_self (inside : index < hub.components.length) (on : Bool) :
    (hub.switch index on).isEnabled index = on := by
  rcases hub.switch_cases index on with ⟨same, settled⟩ | ⟨component, found, ⟨-, rfl, on_eq⟩ |
    ⟨subscription, -, rfl, off_eq⟩⟩
  · have found := List.getElem?_eq_getElem inside
    rw [same, isEnabled_of_components found, settled _ found]
  · rw [on_eq]
    exact isEnabled_of_components (components_setSubscription_self found _)
  · rw [off_eq]
    exact isEnabled_of_components (components_setSubscription_self found _)

theorem isEnabled_switch_of_ne (different : other ≠ index) (on : Bool) :
    (hub.switch index on).isEnabled other = hub.isEnabled other := by
  rw [isEnabled, components_switch_of_ne different, isEnabled]

/-- A component keeps its bus and its listener. -/
theorem components_switch (index : Nat) (on : Bool) {component : Enablement α}
    (found : hub.components[other]? = some component) :
    ∃ subscription, (hub.switch index on).components[other]? =
      some { component with subscription } := by
  by_cases same : other = index
  · subst same
    rcases hub.switch_cases other on with ⟨same, -⟩ | ⟨held, present, ⟨-, -, on_eq⟩ |
      ⟨subscription, -, -, off_eq⟩⟩
    · exact ⟨component.subscription, by rw [same, found]⟩
    · exact ⟨_, by rw [on_eq]; exact components_setSubscription_self found _⟩
    · exact ⟨_, by rw [off_eq]; exact components_setSubscription_self found _⟩
  · exact ⟨component.subscription, by rw [components_switch_of_ne same, found]⟩

/-- Switching adds and removes no bus, no component and no name. -/
theorem frame_switch (hub : Hub α) (index : Nat) (on : Bool) :
    (hub.switch index on).buses.length = hub.buses.length ∧
      (hub.switch index on).components.length = hub.components.length ∧
        (hub.switch index on).registry = hub.registry := by
  rcases hub.switch_cases index on with ⟨same, -⟩ | ⟨component, -, ⟨-, -, on_eq⟩ |
    ⟨subscription, -, -, off_eq⟩⟩
  · simp [same]
  · simp [on_eq, setSubscription, subscribe, setBus]
  · simp [off_eq, setSubscription, unsubscribe, setBus]

@[simp]
theorem length_buses_switch (hub : Hub α) (index : Nat) (on : Bool) :
    (hub.switch index on).buses.length = hub.buses.length := (hub.frame_switch index on).1

@[simp]
theorem length_components_switch (hub : Hub α) (index : Nat) (on : Bool) :
    (hub.switch index on).components.length = hub.components.length :=
  (hub.frame_switch index on).2.1

@[simp]
theorem registry_switch (hub : Hub α) (index : Nat) (on : Bool) :
    (hub.switch index on).registry = hub.registry := (hub.frame_switch index on).2.2

/-- Switching registers no listener but that of the component. -/
theorem mem_registrations_switch {on : Bool} {bus : Nat} {registration : Nat × α}
    (listed : registration ∈ ((hub.switch index on).bus bus).registrations) :
    registration ∈ (hub.bus bus).registrations ∨
      ∃ component, hub.components[index]? = some component ∧ component.bus = bus ∧
        registration.2 = component.listener := by
  rcases hub.switch_cases index on with ⟨same, -⟩ | ⟨component, found, ⟨-, -, on_eq⟩ |
    ⟨subscription, -, -, off_eq⟩⟩
  · exact .inl (same ▸ listed)
  · rw [on_eq, bus_setSubscription] at listed
    rcases hub.bus_setBus_cases component.bus _ bus with same | ⟨rfl, new⟩
    · exact .inl (by rwa [subscribe, same] at listed)
    · rw [subscribe, new, EventBus.registrations_subscribe] at listed
      rcases List.mem_append.mp listed with old | added
      · exact .inl old
      · obtain rfl := List.mem_singleton.mp added
        exact .inr ⟨component, found, rfl, rfl⟩
  · rw [off_eq, bus_setSubscription] at listed
    rcases hub.bus_setBus_cases component.bus _ bus with same | ⟨rfl, new⟩
    · exact .inl (by rwa [unsubscribe, same] at listed)
    · rw [unsubscribe, new, EventBus.registrations_unsubscribe] at listed
      exact .inl (List.mem_filter.mp listed).1

end Hub
end ClassEnhancement
