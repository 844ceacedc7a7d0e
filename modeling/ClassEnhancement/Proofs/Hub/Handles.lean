import ClassEnhancement.Proofs.Hub.Registrations

/-!
# Handles on other buses

A handle is a number, and every bus counts from zero.  A bus therefore takes the handle of another
bus for its own handle of that number.  A hub where handles stray is a hub where they do not, less
the registrations that were struck by a stray handle: nothing else can part an enabled component
from its bus.
-/

namespace ClassEnhancement

/-! ## Registrations that are struck -/

namespace EventBus

variable {α : Type}

/-- A bus less the registrations with some numbers. -/
def without (bus : EventBus α) (gone : List Nat) : EventBus α where
  registrations := bus.registrations.filter fun registration => registration.1 ∉ gone
  nextId := bus.nextId
  increasing := bus.increasing.sublist (List.filter_sublist.map Prod.fst)
  below id member := bus.below id ((List.filter_sublist.map Prod.fst).subset member)

@[simp]
theorem nextId_without (bus : EventBus α) (gone : List Nat) :
    (bus.without gone).nextId = bus.nextId := rfl

@[simp]
theorem without_nil (bus : EventBus α) : bus.without [] = bus :=
  eq_of_registrations (by simp [without]) rfl

@[simp]
theorem empty_without (gone : List Nat) : (empty : EventBus α).without gone = empty := rfl

/-- A number that is given out is none of those that were given out before. -/
theorem subscribe_without {bus : EventBus α} {gone : List Nat}
    (issued : ∀ id ∈ gone, id < bus.nextId) (listener : α) :
    ((bus.without gone).subscribe listener).2 = (bus.subscribe listener).2.without gone := by
  have fresh : bus.nextId ∉ gone := fun member => Nat.lt_irrefl _ (issued _ member)
  refine eq_of_registrations ?_ rfl
  simp [without, fresh]

theorem unsubscribe_without (bus : EventBus α) (gone : List Nat) (subscription : Subscription) :
    ((bus.without gone).unsubscribe subscription).2 =
      (bus.unsubscribe subscription).2.without gone := by
  refine eq_of_registrations ?_ rfl
  simp only [without, registrations_unsubscribe]
  exact List.filter_comm _ _ _

/-- To give up a handle on a bus is to strike its number there. -/
theorem unsubscribe_eq_without (bus : EventBus α) (gone : List Nat) (subscription : Subscription) :
    ((bus.without gone).unsubscribe subscription).2 = bus.without (subscription.id :: gone) := by
  refine eq_of_registrations ?_ rfl
  simp only [without, registrations_unsubscribe, List.filter_filter, List.mem_cons, not_or,
    Bool.decide_and]

end EventBus

namespace Hub

variable {α : Type} {hub : Hub α} {gone : Nat → List Nat} {index : Nat}

open scoped List

/-- A hub less the registrations with some numbers on each bus. -/
def without (hub : Hub α) (gone : Nat → List Nat) : Hub α :=
  { hub with buses := hub.buses.mapIdx fun index bus => bus.without (gone index) }

@[simp]
theorem length_buses_without (hub : Hub α) (gone : Nat → List Nat) :
    (hub.without gone).buses.length = hub.buses.length := by
  simp [without]

@[simp]
theorem components_without (hub : Hub α) (gone : Nat → List Nat) :
    (hub.without gone).components = hub.components := rfl

@[simp]
theorem enabledOn_without (hub : Hub α) (gone : Nat → List Nat) (bus : Nat) :
    (hub.without gone).enabledOn bus = hub.enabledOn bus := rfl

@[simp]
theorem bus_without (hub : Hub α) (gone : Nat → List Nat) (index : Nat) :
    (hub.without gone).bus index = (hub.bus index).without (gone index) := by
  simp only [bus, without, List.getElem?_mapIdx]
  cases hub.buses[index]? <;> rfl

theorem without_nil (hub : Hub α) : hub.without (fun _ => []) = hub := by
  have same : (hub.buses.mapIdx fun _ bus => bus.without []) = hub.buses :=
    List.ext_getElem (by simp) (by simp)
  rw [without, same]

theorem setBus_without (hub : Hub α) (gone : Nat → List Nat) (index : Nat) (bus : EventBus α) :
    (hub.without gone).setBus index (bus.without (gone index)) =
      (hub.setBus index bus).without gone := by
  simp [setBus, without, List.mapIdx_set]

theorem addBus_without (hub : Hub α) (gone : Nat → List Nat) :
    (hub.without gone).addBus.2 = hub.addBus.2.without gone := by
  simp [addBus, without, List.mapIdx_append]

theorem subscribe_without (issued : ∀ id ∈ gone index, id < (hub.bus index).nextId)
    (listener : α) :
    (hub.without gone).subscribe index listener =
      ((hub.subscribe index listener).1, (hub.subscribe index listener).2.without gone) := by
  have same := EventBus.subscribe_without issued listener
  simp only [subscribe, bus_without, same, setBus_without]
  rfl

theorem unsubscribe_without (hub : Hub α) (gone : Nat → List Nat) (index : Nat)
    (subscription : Subscription) :
    ((hub.without gone).unsubscribe index subscription).2 =
      (hub.unsubscribe index subscription).2.without gone := by
  have same := (hub.bus index).unsubscribe_without (gone index) subscription
  simp only [unsubscribe, bus_without, same, setBus_without]

theorem switch_without (issued : ∀ bus, ∀ id ∈ gone bus, id < (hub.bus bus).nextId) (on : Bool) :
    (hub.without gone).switch index on = (hub.switch index on).without gone := by
  simp only [switch, components_without]
  split
  · rfl
  · next component found =>
    split
    · simp only [subscribe_without (issued component.bus)]
      rfl
    · rw [unsubscribe_without]
      rfl
    · rfl

/-- To give up a handle on a bus is to strike its number there. -/
theorem unsubscribe_eq_without (hub : Hub α) (gone : Nat → List Nat) (index : Nat)
    (subscription : Subscription) :
    ((hub.without gone).unsubscribe index subscription).2 =
      hub.without (Function.update gone index (subscription.id :: gone index)) := by
  simp only [unsubscribe, setBus, without]
  congr 1
  refine List.ext_getElem? fun other => ?_
  by_cases here : other = index
  · subst here
    by_cases inside : other < hub.buses.length
    · simpa [bus, inside] using
        (hub.buses[other]).unsubscribe_eq_without (gone other) subscription
    · simp [inside]
  · simp [here, Ne.symm here]

theorem mem_enabledOn {component : Enablement α} (present : component ∈ hub.components)
    {subscription : Subscription} (held : component.subscription = some subscription) :
    (subscription.id, component.listener) ∈ hub.enabledOn component.bus :=
  List.mem_filterMap.mpr ⟨component, present, by simp [heldOn, held]⟩

/-- A component that is enabled holds its registration until a step disables it. -/
theorem components_switch_of_enabled {component : Enablement α}
    (found : hub.components[index]? = some component) (enabled : component.isEnabled = true)
    (other : Nat) (on : Bool) :
    (hub.switch other on).components[index]? = some component ∨
      (hub.switch other on).isEnabled index = false := by
  by_cases same : index = other
  · subst same
    cases on with
    | false => exact .inr (isEnabled_switch_self (List.getElem?_eq_some_iff.mp found).1 false)
    | true =>
        have held : component.subscription.isSome = true := enabled
        obtain ⟨subscription, held⟩ := Option.isSome_iff_exists.mp held
        exact .inl (by rw [switch]; simp [found, held])
  · exact .inl ((components_switch_of_ne same on).trans found)

theorem Step.components_of_enabled {before after : Hub α × Ledger α} (step : Step before after)
    {component : Enablement α} (found : before.1.components[index]? = some component)
    (enabled : component.isEnabled = true) :
    after.1.components[index]? = some component ∨ after.1.isEnabled index = false := by
  cases step with
  | addBus => exact .inl found
  | addComponent =>
      have inside := (List.getElem?_eq_some_iff.mp found).1
      exact .inl ((List.getElem?_append_left inside).trans found)
  | subscribe => exact .inl found
  | unsubscribe => exact .inl found
  | switch _ _ on => exact components_switch_of_enabled found enabled _ on
  | load _ _ state => exact components_switch_of_enabled found enabled _ state.enabled
  | projectClosed => exact components_switch_of_enabled found enabled _ false
  | register => exact .inl found
  | select hub _ project on =>
      simp only [Hub.select]
      split
      · exact .inl found
      · exact components_switch_of_enabled found enabled _ on
  | close hub _ project =>
      simp only [Hub.close]
      split
      · exact .inl found
      · next other _ =>
        let forgetful := { hub with registry := hub.registry.erase project }
        have kept : forgetful.components[index]? = some component := found
        exact components_switch_of_enabled kept enabled other false

/-! ## Hubs where handles stray -/

/-- A step of a hub less some registrations is a step of the whole hub. -/
theorem Step.exists_whole {whole : Hub α} {after : Hub α × Ledger α} {ledger : Ledger α}
    (step : Step (whole.without gone, ledger) after)
    (issued : ∀ bus, ∀ id ∈ gone bus, id < (whole.bus bus).nextId) :
    ∃ later, Step (whole, ledger) (later, after.2) ∧ after.1 = later.without gone := by
  cases step with
  | addBus => exact ⟨_, .addBus _ _, addBus_without _ _⟩
  | addComponent _ present listener =>
      exact ⟨_, .addComponent _ (by simpa using present) listener, rfl⟩
  | @subscribe _ _ bus present listener =>
      rw [subscribe_without (issued bus)]
      exact ⟨_, .subscribe _ (by simpa using present) listener, rfl⟩
  | unsubscribe _ live => exact ⟨_, .unsubscribe _ live, unsubscribe_without _ _ _ _⟩
  | switch _ present on =>
      rw [components_without] at present
      exact ⟨_, .switch _ present on, switch_without issued on⟩
  | load _ present state =>
      rw [components_without] at present
      exact ⟨_, .load _ present state, switch_without issued _⟩
  | projectClosed _ present =>
      rw [components_without] at present
      exact ⟨_, .projectClosed _ present, switch_without issued _⟩
  | register _ project present =>
      rw [components_without] at present
      exact ⟨_, .register _ project present, rfl⟩
  | select _ _ project on =>
      refine ⟨_, .select _ _ project on, ?_⟩
      simp only [Hub.select, component?, without]
      split
      · rfl
      · exact switch_without issued on
  | close _ _ project =>
      refine ⟨_, .close _ _ project, ?_⟩
      simp only [Hub.close, component?, without]
      split
      · rfl
      · have erased : ∀ bus, ∀ id ∈ gone bus, id <
            (({ whole with registry := whole.registry.erase project } : Hub α).bus bus).nextId :=
          issued
        exact switch_without erased false

end Hub

/-- A handle that was given up on a bus that did not issue it. -/
structure Stray where
  /-- The bus that issued it. -/
  issuer : Nat
  /-- The bus on which it was given up. -/
  bus : Nat
  /-- The handle. -/
  subscription : Subscription
  /-- Whether that bus had a registration of its number. -/
  removed : Bool

/-- A hub with what was asked of it, and the handles that strayed. -/
structure Exchange (α : Type) where
  /-- The hub. -/
  hub : Hub α
  /-- What was asked of it. -/
  ledger : Ledger α
  /-- The handles that strayed, the latest first. -/
  strays : List Stray

namespace Exchange

variable {α : Type}

open scoped List

/-- An empty hub, of which nothing was asked. -/
def empty : Exchange α := ⟨.empty, .empty, []⟩

/-- The numbers that stray handles have struck on a bus. -/
def struckOn (strays : List Stray) (bus : Nat) : List Nat :=
  (strays.filter fun stray => stray.removed && stray.bus == bus).map
    fun stray => stray.subscription.id

theorem mem_struckOn {strays : List Stray} {bus id : Nat} :
    id ∈ struckOn strays bus ↔
      ∃ stray ∈ strays, stray.removed = true ∧ stray.bus = bus ∧ stray.subscription.id = id := by
  simp [struckOn, and_assoc]

theorem struckOn_of_removed {stray : Stray} (removed : stray.removed = true)
    (strays : List Stray) :
    struckOn (stray :: strays) = Function.update (struckOn strays) stray.bus
      (stray.subscription.id :: struckOn strays stray.bus) := by
  funext bus
  by_cases here : bus = stray.bus
  · subst here
    simp [struckOn, removed]
  · simp [struckOn, here, Ne.symm here]

theorem struckOn_of_not_removed {stray : Stray} (answer : stray.removed = false)
    (strays : List Stray) : struckOn (stray :: strays) = struckOn strays := by
  funext bus
  simp [struckOn, answer]

/-- One thing asked of a hub, or a handle that strays.  A handle is given up once, wherever that
is, so a registration whose handle has strayed is never given up at home.  An event changes nothing
by itself; what listeners do when they are notified is asked of the hub as well. -/
inductive Step : Exchange α → Exchange α → Prop
  /-- Something is asked of the hub. -/
  | ask {hub later : Hub α} {ledger entered : Ledger α} {strays : List Stray}
      (step : Hub.Step (hub, ledger) (later, entered))
      (kept : ∀ stray ∈ strays, ∀ registration ∈ ledger.direct stray.issuer,
        registration.1 = stray.subscription.id → registration ∈ entered.direct stray.issuer) :
      Step ⟨hub, ledger, strays⟩ ⟨later, entered, strays⟩
  /-- A handle is given up on another bus than its own. -/
  | stray {hub : Hub α} {ledger : Ledger α} {strays : List Stray} {issuer bus : Nat}
      {subscription : Subscription} (foreign : bus ≠ issuer) (present : bus < hub.buses.length)
      (live : subscription.id ∈ (ledger.direct issuer).map Prod.fst)
      (unspent : ∀ stray ∈ strays, stray.issuer = issuer → stray.subscription ≠ subscription) :
      Step ⟨hub, ledger, strays⟩
        ⟨(hub.unsubscribe bus subscription).2, ledger,
          ⟨issuer, bus, subscription, (hub.unsubscribe bus subscription).1⟩ :: strays⟩

/-- Any number of steps. -/
abbrev Reaches : Exchange α → Exchange α → Prop := Relation.ReflTransGen Step

/-! ## What a run keeps -/

/-- A hub is what it would be if no handle had strayed, less the registrations that were struck. -/
structure Sound (exchange : Exchange α) : Prop where
  /-- The hub without stray handles does the same steps. -/
  whole : ∃ whole : Hub α, Hub.Reaches (.empty, .empty) (whole, exchange.ledger) ∧
    exchange.hub = whole.without (struckOn exchange.strays)
  /-- What was struck had been registered. -/
  issued : ∀ bus, ∀ id ∈ struckOn exchange.strays bus, id < (exchange.hub.bus bus).nextId
  /-- A handle that strayed leaves its own registration behind. -/
  spent : ∀ stray ∈ exchange.strays, stray.bus ≠ stray.issuer ∧
    stray.subscription.id ∈ (exchange.ledger.direct stray.issuer).map Prod.fst

theorem sound_empty : (empty : Exchange α).Sound where
  whole := ⟨.empty, .refl, (Hub.without_nil _).symm⟩
  issued _ _ member := by cases member
  spent _ member := by cases member

/-- A handle that strays takes away what it strikes. -/
theorem unsubscribe_whole (whole : Hub α) (strays : List Stray) (issuer bus : Nat)
    (subscription : Subscription) :
    ((whole.without (struckOn strays)).unsubscribe bus subscription).2 =
      whole.without (struckOn (⟨issuer, bus, subscription,
        ((whole.without (struckOn strays)).unsubscribe bus subscription).1⟩ :: strays)) := by
  cases answer : ((whole.without (struckOn strays)).unsubscribe bus subscription).1 with
  | true => rw [struckOn_of_removed rfl, Hub.unsubscribe_eq_without]
  | false =>
      have absent := EventBus.unsubscribe_eq_false_iff.mp answer
      rw [struckOn_of_not_removed rfl, Hub.unsubscribe_of_absent absent]

theorem Step.sound {before after : Exchange α} (step : Step before after)
    (sound : before.Sound) : after.Sound := by
  obtain ⟨whole, reaches, rfl_hub⟩ := sound.whole
  cases step with
  | @ask hub later ledger entered strays step kept =>
      obtain rfl : hub = whole.without (struckOn strays) := rfl_hub
      have issued : ∀ bus, ∀ id ∈ struckOn strays bus, id < (whole.bus bus).nextId := by
        simpa using sound.issued
      obtain ⟨later_whole, step_whole, later_eq⟩ := step.exists_whole issued
      refine ⟨⟨later_whole, reaches.tail step_whole, later_eq⟩, fun bus id member => ?_,
        fun stray member => ?_⟩
      · exact Nat.lt_of_lt_of_le (sound.issued bus id member) (step.later bus).nextId_le
      · obtain ⟨foreign, owned⟩ := sound.spent stray member
        obtain ⟨registration, direct, same⟩ := List.mem_map.mp owned
        exact ⟨foreign, List.mem_map.mpr ⟨registration, kept stray member _ direct same, same⟩⟩
  | @stray hub ledger strays issuer bus subscription foreign present live unspent =>
      obtain rfl : hub = whole.without (struckOn strays) := rfl_hub
      refine ⟨⟨whole, reaches, unsubscribe_whole _ _ _ _ _⟩, fun other id member => ?_,
        fun stray member => ?_⟩
      · have later := Hub.later_setBus (.unsubscribe ((whole.without (struckOn strays)).bus bus)
          subscription) other
        refine Nat.lt_of_lt_of_le ?_ later.nextId_le
        obtain ⟨stray, listed, removed, rfl, rfl⟩ := mem_struckOn.mp member
        rcases List.mem_cons.mp listed with rfl | old
        · obtain ⟨registration, listed, same⟩ :=
            EventBus.unsubscribe_eq_true_iff.mp removed
          exact same ▸ EventBus.id_lt_nextId listed
        · exact sound.issued _ _ (mem_struckOn.mpr ⟨stray, old, removed, rfl, rfl⟩)
      · rcases List.mem_cons.mp member with rfl | old
        · exact ⟨foreign, live⟩
        · exact sound.spent stray old

theorem Reaches.sound {exchange : Exchange α} (reaches : Reaches empty exchange) :
    exchange.Sound := by
  induction reaches with
  | refl => exact sound_empty
  | tail _ step hypothesis => exact step.sound hypothesis

namespace Sound

variable {exchange : Exchange α}

/-- A bus holds the direct registrations and those of enabled components, less the struck ones. -/
theorem registrations (sound : exchange.Sound) (bus : Nat) :
    (exchange.hub.bus bus).registrations ~
      (exchange.ledger.direct bus ++ exchange.hub.enabledOn bus).filter fun registration =>
        registration.1 ∉ struckOn exchange.strays bus := by
  obtain ⟨whole, reaches, hub_eq⟩ := sound.whole
  rw [hub_eq, Hub.enabledOn_without, Hub.bus_without]
  exact (reaches.balanced.registrations bus).filter _

theorem distinct (sound : exchange.Sound) (bus : Nat) :
    ((exchange.ledger.direct bus ++ exchange.hub.enabledOn bus).map Prod.fst).Nodup := by
  obtain ⟨whole, reaches, hub_eq⟩ := sound.whole
  rw [hub_eq, Hub.enabledOn_without]
  exact ((reaches.balanced.registrations bus).map Prod.fst).nodup_iff.mp (whole.bus bus).nodup_ids

theorem mem_registrations_iff (sound : exchange.Sound) {bus : Nat} {registration : Nat × α} :
    registration ∈ (exchange.hub.bus bus).registrations ↔
      registration ∈ exchange.ledger.direct bus ++ exchange.hub.enabledOn bus ∧
        registration.1 ∉ struckOn exchange.strays bus := by
  rw [(sound.registrations bus).mem_iff, List.mem_filter, decide_eq_true_eq]

/-- A registration that was made on a bus is the only one of its number there. -/
theorem eq_of_same_id (sound : exchange.Sound) {bus : Nat} {registration other : Nat × α}
    (made : registration ∈ exchange.ledger.direct bus ++ exchange.hub.enabledOn bus)
    (listed : other ∈ (exchange.hub.bus bus).registrations) (same : other.1 = registration.1) :
    other = registration :=
  List.inj_on_of_nodup_map (sound.distinct bus) (sound.mem_registrations_iff.mp listed).1 made same

/-- An enabled component is missing on its bus if and only if its number was struck there. -/
theorem notMem_registrations_iff (sound : exchange.Sound) {component : Enablement α}
    (present : component ∈ exchange.hub.components) {subscription : Subscription}
    (held : component.subscription = some subscription) :
    (subscription.id, component.listener) ∉ (exchange.hub.bus component.bus).registrations ↔
      ∃ stray ∈ exchange.strays, stray.removed = true ∧ stray.bus = component.bus ∧
        stray.subscription = subscription := by
  have made := List.mem_append_right (exchange.ledger.direct component.bus)
    (Hub.mem_enabledOn present held)
  rw [sound.mem_registrations_iff]
  simp only [made, true_and, not_not, mem_struckOn]
  refine exists_congr fun stray => and_congr_right fun _ => and_congr_right fun _ =>
    and_congr_right fun _ => ?_
  obtain ⟨id⟩ := subscription
  obtain ⟨issuer, bus, ⟨number⟩, removed⟩ := stray
  simp

end Sound

/-- What handles can do to a hub. -/
structure Controls (exchange : Exchange α) : Prop where
  /-- A bus holds the direct registrations that were not given up at home and one for each component
  that is enabled on it, less those that a stray handle has struck. -/
  registrations : ∀ bus, (exchange.hub.bus bus).registrations ~
    (exchange.ledger.direct bus ++ exchange.hub.enabledOn bus).filter fun registration =>
      registration.1 ∉ struckOn exchange.strays bus
  /-- Their numbers differ. -/
  distinct : ∀ bus,
    ((exchange.ledger.direct bus ++ exchange.hub.enabledOn bus).map Prod.fst).Nodup
  /-- A handle finds at home its own registration or, if that was struck, nothing. -/
  home : ∀ bus, ∀ registration ∈ exchange.ledger.direct bus,
    ((exchange.hub.unsubscribe bus ⟨registration.1⟩).1 = true ↔
        registration ∈ (exchange.hub.bus bus).registrations) ∧
      ∀ other, other ∈ ((exchange.hub.unsubscribe bus ⟨registration.1⟩).2.bus bus).registrations ↔
        other ∈ (exchange.hub.bus bus).registrations ∧ other ≠ registration
  /-- A handle finds on another bus the registration of its number, whoever made that one, and
  leaves its own behind. -/
  abroad : ∀ issuer bus, bus ≠ issuer → ∀ registration ∈ exchange.ledger.direct issuer,
    ((exchange.hub.unsubscribe bus ⟨registration.1⟩).1 = true ↔
        ∃ other ∈ (exchange.hub.bus bus).registrations, other.1 = registration.1) ∧
      (∀ other, other ∈ ((exchange.hub.unsubscribe bus ⟨registration.1⟩).2.bus bus).registrations ↔
        other ∈ (exchange.hub.bus bus).registrations ∧ other.1 ≠ registration.1) ∧
      (exchange.hub.unsubscribe bus ⟨registration.1⟩).2.bus issuer = exchange.hub.bus issuer
  /-- A handle that strayed is gone, and the registration that it stood for is left. -/
  left : ∀ stray ∈ exchange.strays, stray.bus ≠ stray.issuer ∧
    ∃ listener, (stray.subscription.id, listener) ∈ exchange.ledger.direct stray.issuer
  /-- An enabled component is missing on its bus if and only if a handle of another bus has struck
  the number of its registration there. -/
  missing : ∀ component ∈ exchange.hub.components, ∀ subscription,
    component.subscription = some subscription →
    ((subscription.id, component.listener) ∉ (exchange.hub.bus component.bus).registrations ↔
      ∃ stray ∈ exchange.strays, stray.removed = true ∧ stray.bus = component.bus ∧
        stray.issuer ≠ component.bus ∧ stray.subscription = subscription)
  /-- A step that takes an enabled component off its bus disables it, or it is such a handle. -/
  lost : ∀ next, Step exchange next → ∀ index component subscription,
    exchange.hub.components[index]? = some component →
    component.subscription = some subscription →
    (subscription.id, component.listener) ∈ (exchange.hub.bus component.bus).registrations →
    (subscription.id, component.listener) ∉ (next.hub.bus component.bus).registrations →
    next.hub.isEnabled index = false ∨
      ∃ stray, next.strays = stray :: exchange.strays ∧ stray.removed = true ∧
        stray.bus = component.bus ∧ stray.issuer ≠ component.bus ∧
        stray.subscription = subscription

/-- A handle at home, of a registration that was made there. -/
theorem Sound.home {exchange : Exchange α} (sound : exchange.Sound) {bus : Nat}
    {registration : Nat × α} (direct : registration ∈ exchange.ledger.direct bus) :
    ((exchange.hub.unsubscribe bus ⟨registration.1⟩).1 = true ↔
        registration ∈ (exchange.hub.bus bus).registrations) ∧
      ∀ other, other ∈ ((exchange.hub.unsubscribe bus ⟨registration.1⟩).2.bus bus).registrations ↔
        other ∈ (exchange.hub.bus bus).registrations ∧ other ≠ registration := by
  have made := List.mem_append_left (exchange.hub.enabledOn bus) direct
  constructor
  · rw [Hub.unsubscribe, EventBus.unsubscribe_eq_true_iff]
    constructor
    · rintro ⟨other, listed, same⟩
      exact sound.eq_of_same_id made listed same ▸ listed
    · exact fun listed => ⟨registration, listed, rfl⟩
  · intro other
    rw [Hub.mem_registrations_unsubscribe]
    refine and_congr_right fun listed => not_congr ⟨sound.eq_of_same_id made listed, ?_⟩
    rintro rfl
    rfl

/-- A step that takes an enabled component off its bus disables it, or it is a stray handle. -/
theorem Sound.lost {exchange next : Exchange α} (sound : exchange.Sound)
    (step : Step exchange next) {index : Nat} {component : Enablement α}
    {subscription : Subscription} (found : exchange.hub.components[index]? = some component)
    (held : component.subscription = some subscription)
    (before : (subscription.id, component.listener) ∈
      (exchange.hub.bus component.bus).registrations)
    (after : (subscription.id, component.listener) ∉
      (next.hub.bus component.bus).registrations) :
    next.hub.isEnabled index = false ∨
      ∃ stray, next.strays = stray :: exchange.strays ∧ stray.removed = true ∧
        stray.bus = component.bus ∧ stray.issuer ≠ component.bus ∧
        stray.subscription = subscription := by
  have present := List.mem_of_getElem? found
  -- Before the step, no stray handle had this number; if it is still held, one has it now.
  have unstruck := mt (sound.notMem_registrations_iff present held).mpr (not_not.mpr before)
  have later := step.sound sound
  cases step with
  | ask step kept =>
      rcases step.components_of_enabled found (by simp [Enablement.isEnabled, held]) with same | off
      · exact (unstruck ((later.notMem_registrations_iff
          (List.mem_of_getElem? same) held).mp after)).elim
      · exact .inl off
  | stray foreign inside live unspent =>
      obtain ⟨stray, listed, removed, here, rfl⟩ := (later.notMem_registrations_iff present held).mp
        after
      rcases List.mem_cons.mp listed with rfl | old
      · exact .inr ⟨_, rfl, removed, here, here ▸ foreign.symm, rfl⟩
      · exact (unstruck ⟨stray, old, removed, here, rfl⟩).elim

/-- Only disabling it and a handle of another bus can part a component from its bus. -/
theorem controls_of_reaches {exchange : Exchange α} (reaches : Reaches empty exchange) :
    exchange.Controls := by
  have sound := reaches.sound
  refine
    { registrations := sound.registrations
      distinct := sound.distinct
      home := fun bus registration direct => sound.home direct
      abroad := fun issuer bus foreign registration _ => ⟨?_, fun other => ?_, ?_⟩
      left := fun stray listed => ?_
      missing := fun component present subscription held => ?_
      lost := fun next step index component subscription found held => sound.lost step found held }
  · rw [Hub.unsubscribe, EventBus.unsubscribe_eq_true_iff]
  · exact Hub.mem_registrations_unsubscribe
  · exact Hub.bus_unsubscribe_of_ne foreign.symm _
  · obtain ⟨foreign, owned⟩ := sound.spent stray listed
    obtain ⟨⟨id, listener⟩, direct, rfl⟩ := List.mem_map.mp owned
    exact ⟨foreign, listener, direct⟩
  · rw [sound.notMem_registrations_iff present held]
    refine exists_congr fun stray => and_congr_right fun listed => and_congr_right fun _ =>
      and_congr_right fun here => ?_
    have foreign : stray.issuer ≠ component.bus := here ▸ (sound.spent stray listed).1.symm
    exact (and_iff_right foreign).symm

/-! ## Two projects -/

/-- A direct listener on the first of two buses, with its handle. -/
def guest : Subscription × Hub String :=
  (Hub.empty : Hub String).addBus.2.addBus.2.subscribe 0 "guest"

/-- The second bus has a component, which is enabled. -/
def twoBuses : Hub String := (guest.2.addComponent 1 "own").2.switch 0 true

theorem reaches_twoBuses :
    ∃ ledger, Reaches empty ⟨twoBuses, ledger, []⟩ ∧ ledger.direct 0 = [(0, "guest")] := by
  refine ⟨_, .tail (.tail (.tail (.tail (.tail .refl
    (.ask (.addBus _ _) nofun))
    (.ask (.addBus _ _) nofun))
    (.ask (.subscribe _ (show 0 < _ by decide) "guest") nofun))
    (.ask (.addComponent _ (show 1 < _ by decide) "own") nofun))
    (.ask (.switch _ (show 0 < _ by decide) true) nofun), rfl⟩

/-- The handle of the first bus takes the component off the second one. -/
theorem controls_of_stray :
    ∃ exchange : Exchange String, Reaches empty exchange ∧ exchange.Controls ∧
      exchange.hub.isEnabled 0 = true ∧ (0, "own") ∉ (exchange.hub.bus 1).registrations ∧
      exchange.strays.map Stray.issuer = [0] := by
  obtain ⟨ledger, reaches, direct⟩ := reaches_twoBuses
  have strayed : Reaches empty ⟨(twoBuses.unsubscribe 1 guest.1).2, ledger,
      [⟨0, 1, guest.1, (twoBuses.unsubscribe 1 guest.1).1⟩]⟩ :=
    reaches.tail (.stray (by decide) (by decide) (by rw [direct]; decide) nofun)
  have enabled : (twoBuses.unsubscribe 1 guest.1).2.isEnabled 0 = true := by decide
  have missing : (0, "own") ∉ ((twoBuses.unsubscribe 1 guest.1).2.bus 1).registrations := by decide
  exact ⟨_, strayed, controls_of_reaches strayed, enabled, missing, rfl⟩

/-- The second bus answers that it had the registration of the first one, and it has none left,
although its component is enabled all the while. -/
theorem takes_handle_of_other_bus :
    (twoBuses.bus 0).registrations = [(0, "guest")] ∧
      (twoBuses.bus 1).registrations = [(0, "own")] ∧ twoBuses.isEnabled 0 = true ∧
      (twoBuses.unsubscribe 1 guest.1).1 = true ∧
      ((twoBuses.unsubscribe 1 guest.1).2.bus 0).registrations = [(0, "guest")] ∧
      ((twoBuses.unsubscribe 1 guest.1).2.bus 1).registrations = [] ∧
      (twoBuses.unsubscribe 1 guest.1).2.isEnabled 0 = true := by
  decide

end Exchange
end ClassEnhancement
