import ClassEnhancement.Proofs.Hub.Balance

/-!
# Registrations on a bus

Whatever is asked of a hub, and in whatever order, a bus holds the direct registrations that were
not given up and one registration for each component that is enabled on it, and a number on a bus
stays with one registration.
-/

namespace ClassEnhancement

/-! ## Numbers over time -/

/-- A later state of a bus: a number that was given out before names what it named, or nothing. -/
structure EventBus.Later {α : Type} (before after : EventBus α) : Prop where
  /-- Numbers are given out in order. -/
  nextId_le : before.nextId ≤ after.nextId
  /-- Registrations with an old number are old. -/
  old : ∀ registration ∈ after.registrations, registration.1 < before.nextId →
    registration ∈ before.registrations

namespace EventBus.Later

variable {α : Type} {first second third : EventBus α}

theorem refl (bus : EventBus α) : bus.Later bus := ⟨Nat.le_refl _, fun _ listed _ => listed⟩

theorem trans (before : first.Later second) (after : second.Later third) : first.Later third where
  nextId_le := Nat.le_trans before.nextId_le after.nextId_le
  old registration listed small :=
    before.old registration
      (after.old registration listed (Nat.lt_of_lt_of_le small before.nextId_le)) small

theorem subscribe (bus : EventBus α) (listener : α) : bus.Later (bus.subscribe listener).2 where
  nextId_le := Nat.le_succ _
  old registration listed small := by
    rcases List.mem_append.mp listed with old | new
    · exact old
    · obtain rfl := List.mem_singleton.mp new
      exact absurd small (Nat.lt_irrefl _)

theorem unsubscribe (bus : EventBus α) (subscription : Subscription) :
    bus.Later (bus.unsubscribe subscription).2 where
  nextId_le := Nat.le_refl _
  old _ listed _ := (List.mem_filter.mp listed).1

/-- A number that is seen early and late belongs to one registration, there all the while. -/
theorem stays (before : first.Later second) (after : second.Later third) {old now : Nat × α}
    (early : old ∈ first.registrations) (late : now ∈ third.registrations) (same : now.1 = old.1) :
    now = old ∧ old ∈ second.registrations := by
  have small : now.1 < first.nextId := same ▸ id_lt_nextId early
  have between := after.old now late (Nat.lt_of_lt_of_le small before.nextId_le)
  obtain rfl := eq_of_same_id (before.old now between small) early same
  exact ⟨rfl, between⟩

end EventBus.Later

namespace Hub

variable {α : Type}

open scoped List

theorem later_setBus {hub : Hub α} {index : Nat} {bus : EventBus α}
    (later : (hub.bus index).Later bus) (other : Nat) :
    (hub.bus other).Later ((hub.setBus index bus).bus other) := by
  rcases hub.bus_setBus_cases index bus other with same | ⟨rfl, new⟩
  · rw [same]
    exact .refl _
  · rwa [new]

theorem later_switch (hub : Hub α) (index : Nat) (on : Bool) (bus : Nat) :
    (hub.bus bus).Later ((hub.switch index on).bus bus) := by
  rcases hub.switch_cases index on with ⟨same, -⟩ | ⟨component, -, ⟨-, -, on_eq⟩ |
    ⟨subscription, -, -, off_eq⟩⟩
  · rw [same]
    exact .refl _
  · rw [on_eq]
    exact later_setBus (.subscribe _ _) bus
  · rw [off_eq]
    exact later_setBus (.unsubscribe _ _) bus

theorem Step.later {before after : Hub α × Ledger α} (step : Step before after) (bus : Nat) :
    (before.1.bus bus).Later (after.1.bus bus) := by
  cases step with
  | addBus hub =>
      rw [bus_addBus]
      exact .refl _
  | addComponent => exact .refl _
  | subscribe => exact later_setBus (.subscribe _ _) bus
  | unsubscribe => exact later_setBus (.unsubscribe _ _) bus
  | switch => exact later_switch _ _ _ bus
  | load => exact later_switch _ _ _ bus
  | projectClosed => exact later_switch _ _ _ bus
  | register => exact .refl _
  | select hub _ project on =>
      show (hub.bus bus).Later ((hub.select project on).bus bus)
      rw [Hub.select]
      split
      · exact .refl _
      · exact later_switch _ _ _ bus
  | close hub _ project =>
      show (hub.bus bus).Later ((hub.close project).2.bus bus)
      rw [Hub.close]
      split
      · exact .refl _
      · exact later_switch { hub with registry := hub.registry.erase project } _ false bus

theorem Reaches.later {before after : Hub α × Ledger α} (reaches : Reaches before after)
    (bus : Nat) : (before.1.bus bus).Later (after.1.bus bus) := by
  induction reaches with
  | refl => exact .refl _
  | tail _ step hypothesis => exact hypothesis.trans (step.later bus)

theorem Reaches.balanced {reached : Hub α × Ledger α} (reaches : Reaches (empty, .empty) reached) :
    reached.1.Balanced reached.2 := by
  induction reaches with
  | refl => exact balanced_empty
  | tail _ step hypothesis => exact step.balanced hypothesis

/-! ## Runs of a hub -/

/-- What holds of a hub after any run. -/
structure Kept (hub : Hub α) (ledger : Ledger α) : Prop where
  /-- A bus holds the direct registrations that were not given up, and one registration of its
  listener for each component that is enabled on it. -/
  registrations : ∀ bus,
    (hub.bus bus).registrations ~ ledger.direct bus ++ hub.enabledOn bus
  /-- They are counted. -/
  count : ∀ bus, (hub.bus bus).count = (ledger.direct bus).length +
    hub.components.countP fun component => component.bus == bus && component.isEnabled
  /-- Their numbers differ. -/
  distinct : ∀ bus, (hub.bus bus).ids.Nodup
  /-- A number seen before on a bus belongs to the registration that it belonged to, and that
  registration was there all the while. -/
  unique : ∀ earlier between, Reaches (empty, .empty) earlier → Reaches earlier between →
    Reaches between (hub, ledger) → ∀ bus, ∀ old ∈ (earlier.1.bus bus).registrations,
      ∀ now ∈ (hub.bus bus).registrations, now.1 = old.1 →
        now = old ∧ old ∈ (between.1.bus bus).registrations
  /-- A component is what it was last asked to be. -/
  requested : ∀ component, hub.isEnabled component = ledger.requested component
  /-- Switching an unknown project does nothing. -/
  unknown : ∀ project on, ledger.registered project = none → hub.select project on = hub
  /-- Switching a project touches its own component only. -/
  others : ∀ project on component, ledger.registered project ≠ some component →
    (hub.select project on).components[component]? = hub.components[component]?

/-- Whatever is asked of a hub, registrations follow the ledger. -/
theorem kept_of_reaches {hub : Hub α} {ledger : Ledger α}
    (reaches : Reaches (empty, .empty) (hub, ledger)) : hub.Kept ledger where
  registrations := reaches.balanced.registrations
  count bus := by
    rw [EventBus.count, (reaches.balanced.registrations bus).length_eq, List.length_append,
      length_enabledOn]
  distinct bus := (hub.bus bus).nodup_ids
  unique _ _ _ before after bus _ early _ late same :=
    (before.later bus).stays (after.later bus) early late same
  requested := reaches.balanced.requested
  unknown project on absent := by
    rw [select, reaches.balanced.registry project, absent]
  others project on component elsewhere := by
    rw [select, reaches.balanced.registry project]
    cases found : ledger.registered project with
    | none => rfl
    | some registered =>
        have different : component ≠ registered := by
          rintro rfl
          exact elsewhere found
        exact components_switch_of_ne different on

/-- One bus with a direct listener and a component that goes by two names, enabled by the first and
closed by the second. -/
theorem kept_of_two_names :
    ∃ (hub : Hub String) (ledger : Ledger String),
      Reaches (empty, .empty) (hub, ledger) ∧ hub.Kept ledger ∧
        (hub.bus 0).registrations = [(1, "direct")] ∧ ledger.registered "a" = some 0 := by
  have reaches : Reaches ((empty, .empty) : Hub String × Ledger String) (_, _) :=
    .tail (.tail (.tail (.tail (.tail (.tail (.tail .refl
      (.addBus _ _))
      (.addComponent _ (show 0 < _ by decide) "own"))
      (.register _ "a" (show 0 < _ by decide)))
      (.register _ "b" (show 0 < _ by decide)))
      (.select _ _ "a" true))
      (.subscribe _ (show 0 < _ by decide) "direct"))
      (.close _ _ "b")
  exact ⟨_, _, reaches, kept_of_reaches reaches, rfl, rfl⟩

end Hub
end ClassEnhancement
