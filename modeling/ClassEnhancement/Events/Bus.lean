/-!
# Event buses

A bus holds the registrations of listeners, in the order in which they were made.  Registrations are
numbered from zero and a number is never used again.  An event goes to the listeners that were
registered when it began, whatever they do to the bus meanwhile.
-/

namespace ClassEnhancement

/-- The handle of a registration: its number on the bus that gave it out. -/
structure Subscription where
  /-- The number. -/
  id : Nat
  deriving DecidableEq, Repr

/-- A bus for events. -/
structure EventBus (α : Type) where
  /-- Numbers and listeners, in the order of registration. -/
  registrations : List (Nat × α)
  /-- The next number. -/
  nextId : Nat
  /-- Numbers increase. -/
  increasing : (registrations.map Prod.fst).Pairwise (· < ·)
  /-- Numbers to come are greater. -/
  below : ∀ id ∈ registrations.map Prod.fst, id < nextId

namespace EventBus

variable {α : Type}

/-- A bus that nobody has used. -/
def empty : EventBus α := ⟨[], 0, .nil, by simp⟩

instance : Inhabited (EventBus α) := ⟨empty⟩

/-- Numbers of the registrations. -/
def ids (bus : EventBus α) : List Nat := bus.registrations.map Prod.fst

/-- Number of registrations. -/
def count (bus : EventBus α) : Nat := bus.registrations.length

/-- Registers a listener. -/
def subscribe (bus : EventBus α) (listener : α) : Subscription × EventBus α :=
  (⟨bus.nextId⟩,
    { registrations := bus.registrations ++ [(bus.nextId, listener)]
      nextId := bus.nextId + 1
      increasing := by
        rw [List.map_append, List.pairwise_append]
        refine ⟨bus.increasing, by simp, fun id member other last => ?_⟩
        simp only [List.map_cons, List.map_nil, List.mem_singleton] at last
        exact last ▸ bus.below id member
      below := by
        intro id member
        rw [List.map_append, List.mem_append] at member
        rcases member with old | new
        · exact Nat.lt_succ_of_lt (bus.below id old)
        · simp only [List.map_cons, List.map_nil, List.mem_singleton] at new
          omega })

/-- Removes a registration, and tells whether there was one of that number. -/
def unsubscribe (bus : EventBus α) (subscription : Subscription) : Bool × EventBus α :=
  let kept := bus.registrations.filter fun registration => registration.1 ≠ subscription.id
  have sublist : (kept.map Prod.fst).Sublist (bus.registrations.map Prod.fst) :=
    List.filter_sublist.map Prod.fst
  (bus.ids.contains subscription.id,
    { registrations := kept
      nextId := bus.nextId
      increasing := bus.increasing.sublist sublist
      below := fun id member => bus.below id (sublist.subset member) })

/-- Notifies the registered listeners in order, each together with its registration. -/
def deliver {σ : Type} (bus : EventBus α) (notify : Subscription → α → σ → σ) (state : σ) : σ :=
  bus.registrations.foldl
    (fun state registration => notify ⟨registration.1⟩ registration.2 state) state

/-- Diagnostic text. -/
def describe (bus : EventBus α) : String :=
  s!"CompilationEventBus \x7b listeners: {bus.count}, .. \x7d"

/-! ## Registrations -/

@[simp]
theorem registrations_subscribe (bus : EventBus α) (listener : α) :
    (bus.subscribe listener).2.registrations = bus.registrations ++ [(bus.nextId, listener)] := rfl

@[simp]
theorem registrations_unsubscribe (bus : EventBus α) (subscription : Subscription) :
    (bus.unsubscribe subscription).2.registrations =
      bus.registrations.filter fun registration => registration.1 ≠ subscription.id := rfl

end EventBus
end ClassEnhancement
