import ClassEnhancement.Proofs.Hub.Registrations
import ClassEnhancement.Proofs.Service.Closing

/-!
# The registration of a service

The bus of a service is switched by the component of the service alone.  So it holds one
enhancement registration while that component is enabled, and none while it is disabled, whatever
guests come and go on the bus.
-/

namespace ClassEnhancement

namespace Hub

variable {hub : Hub BusListener} {index bus component : Nat}

/-- A hub serves a service: the component of the service is the only one on its bus, and the
enhancement registrations on the bus are those that the component holds. -/
structure Serves (hub : Hub BusListener) (index bus component : Nat) : Prop where
  /-- There is the bus. -/
  placed : bus < hub.buses.length
  /-- No other component is on it. -/
  alone : ∀ (other : Nat) (held : Enablement BusListener),
    hub.components[other]? = some held → held.bus = bus → other = component
  /-- The component holds the registration. -/
  holds : ∃ subscription, hub.components[component]? =
      some ⟨bus, .enhancement index, subscription⟩ ∧
    ∀ id owner, (id, BusListener.enhancement owner) ∈ (hub.bus bus).registrations ↔
      owner = index ∧ subscription = some ⟨id⟩

/-! ## Components -/

/-- A component that is there after switching was there before, on the same bus. -/
theorem components_of_switch {switched other : Nat} {on : Bool} {held : Enablement BusListener}
    (found : (hub.switch switched on).components[other]? = some held) :
    ∃ before, hub.components[other]? = some before ∧ before.bus = held.bus := by
  cases present : hub.components[other]? with
  | none =>
      have outside := List.getElem?_eq_none_iff.mp present
      rw [List.getElem?_eq_none (by simpa using outside)] at found
      cases found
  | some before =>
      obtain ⟨subscription, after⟩ := components_switch switched on present
      obtain rfl := Option.some.inj (after.symm.trans found)
      exact ⟨before, rfl, rfl⟩

theorem Serves.of_bus {other : Hub BusListener} (serves : hub.Serves index bus component)
    (placed : bus < other.buses.length) (components : other.components = hub.components)
    (listed : ∀ id owner, (id, BusListener.enhancement owner) ∈ (other.bus bus).registrations ↔
      (id, BusListener.enhancement owner) ∈ (hub.bus bus).registrations) :
    other.Serves index bus component := by
  obtain ⟨-, alone, subscription, found, registered⟩ := serves
  refine ⟨placed, ?_, subscription, ?_, fun id owner =>
    (listed id owner).trans (registered id owner)⟩
  · rw [components]
    exact alone
  · rw [components]
    exact found

/-! ## Guests -/

/-- Guests that come change no enhancement registration. -/
theorem Serves.subscribe_guest (serves : hub.Serves index bus component) (on : Nat)
    (actions : List GuestAction) :
    (hub.subscribe on (.guest actions)).2.Serves index bus component := by
  refine serves.of_bus (by simpa [subscribe] using serves.placed) rfl fun id owner => ?_
  rcases hub.bus_setBus_cases on _ bus with same | ⟨rfl, new⟩
  · rw [subscribe, same]
  · rw [subscribe, new, EventBus.registrations_subscribe, List.mem_append]
    simp

/-- Guests that go change no enhancement registration. -/
theorem Serves.unsubscribe_guest (serves : hub.Serves index bus component) {on : Nat}
    {subscription : Subscription} {actions : List GuestAction}
    (guest : (subscription.id, .guest actions) ∈ (hub.bus on).registrations) :
    (hub.unsubscribe on subscription).2.Serves index bus component := by
  refine serves.of_bus (by simpa [unsubscribe] using serves.placed) rfl fun id owner => ?_
  rcases hub.bus_setBus_cases on _ bus with same | ⟨rfl, new⟩
  · rw [unsubscribe, same]
  · rw [unsubscribe, new, EventBus.registrations_unsubscribe, List.mem_filter,
      and_iff_left_iff_imp]
    intro listed
    -- The number of the guest names the guest alone.
    refine decide_eq_true fun same => ?_
    cases EventBus.eq_of_same_id listed guest same

/-! ## Switching -/

/-- Switching the component of a service gives it a registration, or takes it away. -/
theorem Serves.holds_switch_self (serves : hub.Serves index bus component) (on : Bool) :
    ∃ subscription, (hub.switch component on).components[component]? =
        some ⟨bus, .enhancement index, subscription⟩ ∧
      ∀ id owner,
        (id, BusListener.enhancement owner) ∈ ((hub.switch component on).bus bus).registrations ↔
          owner = index ∧ subscription = some ⟨id⟩ := by
  obtain ⟨subscription, found, registered⟩ := serves.holds
  rcases hub.switch_cases component on with ⟨same, -⟩ | ⟨held, present, ⟨off, -, on_eq⟩ |
    ⟨own, on, -, off_eq⟩⟩
  · rw [same]
    exact ⟨subscription, found, registered⟩
  · obtain rfl := Option.some.inj (found.symm.trans present)
    dsimp only at off
    subst off
    rw [on_eq]
    refine ⟨_, components_setSubscription_self found _, fun id owner => ?_⟩
    rw [bus_setSubscription, bus_subscribe_self serves.placed, EventBus.registrations_subscribe,
      List.mem_append, registered]
    simp [subscribe, EventBus.subscribe, and_comm, eq_comm]
  · obtain rfl := Option.some.inj (found.symm.trans present)
    dsimp only at on
    subst on
    rw [off_eq]
    refine ⟨_, components_setSubscription_self found _, fun id owner => ?_⟩
    rw [bus_setSubscription, bus_unsubscribe_self serves.placed,
      EventBus.registrations_unsubscribe, List.mem_filter, registered]
    constructor
    · rintro ⟨⟨-, same⟩, different⟩
      obtain rfl := Option.some.inj same
      exact absurd rfl (of_decide_eq_true different)
    · rintro ⟨-, none_some⟩
      cases none_some

/-- Switching any component keeps every service served. -/
theorem Serves.switch (serves : hub.Serves index bus component) (switched : Nat) (on : Bool) :
    (hub.switch switched on).Serves index bus component := by
  refine ⟨by simpa using serves.placed, fun other held found same => ?_, ?_⟩
  · obtain ⟨before, present, kept⟩ := components_of_switch found
    exact serves.alone other before present (kept.trans same)
  · by_cases own : switched = component
    · subst own
      exact serves.holds_switch_self on
    · have elsewhere : ∀ held, hub.components[switched]? = some held → held.bus ≠ bus :=
        fun held present same => own (serves.alone switched held present same)
      rw [components_switch_of_ne (Ne.symm own), bus_switch_of_ne on elsewhere]
      exact serves.holds

/-! ## Opening -/

/-- All components are on buses that there are. -/
def IsPlaced (hub : Hub BusListener) : Prop :=
  ∀ held ∈ hub.components, held.bus < hub.buses.length

/-- A hub with a bus and a component for another service. -/
def withService (hub : Hub BusListener) (index : Nat) : Hub BusListener :=
  (hub.addBus.2.addComponent hub.buses.length (.enhancement index)).2

theorem bus_withService (hub : Hub BusListener) (index bus : Nat) :
    (hub.withService index).bus bus = hub.bus bus := hub.bus_addBus bus

theorem components_withService (hub : Hub BusListener) (index : Nat) :
    (hub.withService index).components =
      hub.components ++ [⟨hub.buses.length, .enhancement index, none⟩] := rfl

theorem length_buses_withService (hub : Hub BusListener) (index : Nat) :
    (hub.withService index).buses.length = hub.buses.length + 1 := by
  simp [withService, addBus, addComponent]

/-- A component of the extended hub is an old one, or that of the new service. -/
theorem components_withService_cases {other : Nat} {held : Enablement BusListener}
    (found : (hub.withService index).components[other]? = some held) :
    hub.components[other]? = some held ∨
      other = hub.components.length ∧ held = ⟨hub.buses.length, .enhancement index, none⟩ := by
  rw [components_withService] at found
  by_cases old : other < hub.components.length
  · rw [List.getElem?_append_left old] at found
    exact .inl found
  · rw [List.getElem?_append_right (Nat.le_of_not_lt old)] at found
    obtain ⟨inside, rfl⟩ := List.getElem?_eq_some_iff.mp found
    have last : other = hub.components.length := by
      simp only [List.length_singleton] at inside
      omega
    exact .inr ⟨last, by simp [last]⟩

theorem Serves.withService (serves : hub.Serves index bus component) (new : Nat) :
    (hub.withService new).Serves index bus component := by
  obtain ⟨placed, alone, subscription, found, registered⟩ := serves
  refine ⟨?_, fun other held present same => ?_, subscription, ?_, fun id owner => ?_⟩
  · rw [length_buses_withService]
    exact Nat.lt_succ_of_lt placed
  · rcases components_withService_cases present with old | ⟨-, rfl⟩
    · exact alone other held old same
    · exact absurd same (Nat.ne_of_gt placed)
  · rw [components_withService,
      List.getElem?_append_left (List.getElem?_eq_some_iff.mp found).1]
    exact found
  · rw [bus_withService]
    exact registered id owner

/-- The bus of a new service is empty. -/
theorem serves_withService (placed : hub.IsPlaced) (index : Nat) :
    (hub.withService index).Serves index hub.buses.length hub.components.length := by
  refine ⟨?_, fun other held present same => ?_, none, ?_, fun id owner => ?_⟩
  · rw [length_buses_withService]
    exact Nat.lt_succ_self _
  · rcases components_withService_cases present with old | ⟨last, -⟩
    · exact absurd same (Nat.ne_of_lt (placed held (List.mem_of_getElem? old)))
    · exact last
  · simp [components_withService]
  · rw [bus_withService, bus_of_le (Nat.le_refl _)]
    simp [EventBus.empty]

theorem IsPlaced.withService (placed : hub.IsPlaced) (index : Nat) :
    (hub.withService index).IsPlaced := by
  intro held listed
  rw [length_buses_withService]
  rw [components_withService] at listed
  rcases List.mem_append.mp listed with old | new
  · exact Nat.lt_succ_of_lt (placed held old)
  · obtain rfl := List.mem_singleton.mp new
    exact Nat.lt_succ_self _

theorem IsPlaced.switch (placed : hub.IsPlaced) (switched : Nat) (on : Bool) :
    (hub.switch switched on).IsPlaced := by
  intro held listed
  obtain ⟨other, found⟩ := List.mem_iff_getElem?.mp listed
  obtain ⟨before, present, same⟩ := components_of_switch found
  rw [length_buses_switch, ← same]
  exact placed before (List.mem_of_getElem? present)

/-! ## Registrations that run batches -/

/-- Whether the listener of a registration runs a batch when it is notified. -/
def isEnhancement (registration : Nat × BusListener) : Bool :=
  match registration.2 with
  | .enhancement _ => true
  | .guest _ => false

/-- The registrations on a bus that run batches. -/
def batchesOn (hub : Hub BusListener) (bus : Nat) : List (Nat × BusListener) :=
  (hub.bus bus).registrations.filter isEnhancement

theorem Serves.isEnabled (serves : hub.Serves index bus component) :
    ∃ subscription : Option Subscription, hub.isEnabled component = subscription.isSome ∧
      ∀ id owner, (id, BusListener.enhancement owner) ∈ (hub.bus bus).registrations ↔
        owner = index ∧ subscription = some ⟨id⟩ := by
  obtain ⟨-, -, subscription, found, registered⟩ := serves
  exact ⟨subscription, isEnabled_of_components found, registered⟩

/-- A disabled service has no batch to run. -/
theorem Serves.batchesOn_of_disabled (serves : hub.Serves index bus component)
    (disabled : hub.isEnabled component = false) : hub.batchesOn bus = [] := by
  obtain ⟨subscription, enabled, registered⟩ := serves.isEnabled
  refine List.filter_eq_nil_iff.mpr fun registration listed => ?_
  obtain ⟨id, listener⟩ := registration
  cases listener with
  | guest actions => simp [isEnhancement]
  | enhancement owner =>
      obtain ⟨-, rfl⟩ := (registered id owner).mp listed
      rw [enabled] at disabled
      cases disabled

/-- An enabled service has one batch to run, which is its own: guests are notified before and after
its listener. -/
theorem Serves.registrations_of_enabled (serves : hub.Serves index bus component)
    (enabled : hub.isEnabled component = true) :
    ∃ (id : Nat) (front back : List (Nat × BusListener)),
      (hub.bus bus).registrations = front ++ (id, .enhancement index) :: back ∧
        front.filter isEnhancement = [] ∧ back.filter isEnhancement = [] := by
  obtain ⟨subscription, same, registered⟩ := serves.isEnabled
  rw [enabled] at same
  obtain ⟨⟨id⟩, rfl⟩ := Option.isSome_iff_exists.mp same.symm
  have own := (registered id index).mpr ⟨rfl, rfl⟩
  obtain ⟨front, back, split, others⟩ := EventBus.split_of_mem own
  -- Another enhancement registration would have the number of this one.
  have guests : ∀ registration ∈ front ++ back, isEnhancement registration ≠ true := by
    rintro ⟨other, listener⟩ listed enhances
    cases listener with
    | guest actions => cases enhances
    | enhancement owner =>
        have present : (other, BusListener.enhancement owner) ∈ (hub.bus bus).registrations := by
          rw [split]
          rcases List.mem_append.mp listed with before | after
          · exact List.mem_append_left _ before
          · exact List.mem_append_right _ (List.mem_cons_of_mem _ after)
        obtain ⟨rfl, same⟩ := (registered other owner).mp present
        exact others _ listed (congrArg Subscription.id (Option.some.inj same)).symm
  exact ⟨id, front, back, split,
    List.filter_eq_nil_iff.mpr fun registration listed =>
      guests registration (List.mem_append_left _ listed),
    List.filter_eq_nil_iff.mpr fun registration listed =>
      guests registration (List.mem_append_right _ listed)⟩

end Hub
end ClassEnhancement
