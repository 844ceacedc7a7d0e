import ClassEnhancement.Proofs.Hub.Switching
import Mathlib.Data.List.Sort
import Mathlib.Logic.Relation

/-!
# Delivery of events

A chronicle is a bus with a record of what happened on it.  Listeners that are notified change the
bus as they please: what they do depends on their registration, on the bus as it is then, and on a
memory that they share.  However they do, a call notifies the registrations that were made and not
removed before it, in the order in which they were made.
-/

namespace ClassEnhancement

/-- Something done to a bus. -/
inductive EventBus.Change (α : Type) where
  /-- Registers a listener. -/
  | subscribe (listener : α)
  /-- Removes the registration with a number, if there is one. -/
  | unsubscribe (subscription : Subscription)

/-- Something that happened on a bus. -/
inductive EventBus.Happening (α : Type) where
  /-- A registration was made. -/
  | subscribed (registration : Nat × α)
  /-- A registration was removed. -/
  | unsubscribed (registration : Nat × α)
  /-- A registration was notified. -/
  | notified (registration : Nat × α)

/-- What happened on a bus, the latest at the end. -/
abbrev EventBus.Record (α : Type) := List (EventBus.Happening α)

/-- A bus, the memory of its listeners, and all that happened on the bus. -/
structure Chronicle (α σ : Type) where
  /-- The bus. -/
  bus : EventBus α
  /-- What the listeners remember. -/
  memory : σ
  /-- What happened. -/
  record : EventBus.Record α

/-- What listeners do when they are notified: the changes that they make to the bus, and what they
remember from then on. -/
def EventBus.Conduct (α σ : Type) : Type :=
  Nat × α → EventBus α → σ → List (EventBus.Change α) × σ

namespace EventBus

variable {α : Type} {σ : Type}

open scoped List

/-! ## Listener tables -/

/-- Whether an entry has no greater number than another. -/
def isNumbered (first second : Nat × α) : Bool := decide (first.1 ≤ second.1)

/-- Delivery from a table of listeners that lists its entries in any order: they are sorted by
number first. -/
def deliverTable (table : List (Nat × α)) (notify : Subscription → α → σ → σ) (state : σ) : σ :=
  (table.mergeSort isNumbered).foldl
    (fun state registration => notify ⟨registration.1⟩ registration.2 state) state

/-- However a table lists the registrations of a bus, sorting restores their order. -/
theorem mergeSort_table (bus : EventBus α) {table : List (Nat × α)}
    (lists : table ~ bus.registrations) :
    table.mergeSort isNumbered = bus.registrations := by
  have sorted : (table.mergeSort isNumbered).Pairwise fun first second =>
      isNumbered first second = true :=
    List.pairwise_mergeSort
      (fun a b c before after => by
        simp only [isNumbered, decide_eq_true_eq] at before after ⊢
        exact before.trans after)
      (fun a b => by simpa [isNumbered] using Nat.le_total a.1 b.1) table
  have increasing : bus.registrations.Pairwise fun first second =>
      isNumbered first second = true :=
    (List.pairwise_map.mp bus.increasing).imp fun below => by
      simpa [isNumbered] using Nat.le_of_lt below
  have same : table.mergeSort isNumbered ~ bus.registrations :=
    (List.mergeSort_perm table isNumbered).trans lists
  refine same.eq_of_pairwise (fun first second listed held le ge => ?_) sorted increasing
  simp only [isNumbered, decide_eq_true_eq] at le ge
  exact eq_of_same_id (same.mem_iff.mp listed) held (Nat.le_antisymm le ge)

theorem deliverTable_eq (bus : EventBus α) {table : List (Nat × α)}
    (lists : table ~ bus.registrations) (notify : Subscription → α → σ → σ) (state : σ) :
    deliverTable table notify state = bus.deliver notify state := by
  rw [deliverTable, bus.mergeSort_table lists, deliver]

/-! ## Records -/

namespace Record

/-- The registrations that were made, in order. -/
def subscribed (record : Record α) : List (Nat × α) :=
  record.filterMap fun
    | .subscribed registration => some registration
    | _ => none

/-- The registrations that were removed. -/
def unsubscribed (record : Record α) : List (Nat × α) :=
  record.filterMap fun
    | .unsubscribed registration => some registration
    | _ => none

/-- The registrations that were notified, in order. -/
def notified (record : Record α) : List (Nat × α) :=
  record.filterMap fun
    | .notified registration => some registration
    | _ => none

/-- The registrations that were made and not removed, in the order in which they were made. -/
def live (record : Record α) : List (Nat × α) :=
  record.subscribed.filter fun registration =>
    decide (registration.1 ∉ record.unsubscribed.map Prod.fst)

@[simp]
theorem subscribed_append (first second : Record α) :
    (first ++ second).subscribed = first.subscribed ++ second.subscribed :=
  List.filterMap_append

@[simp]
theorem unsubscribed_append (first second : Record α) :
    (first ++ second).unsubscribed = first.unsubscribed ++ second.unsubscribed :=
  List.filterMap_append

@[simp]
theorem notified_append (first second : Record α) :
    (first ++ second).notified = first.notified ++ second.notified :=
  List.filterMap_append

theorem mem_live {record : Record α} {registration : Nat × α} :
    registration ∈ record.live ↔ registration ∈ record.subscribed ∧
      registration.1 ∉ record.unsubscribed.map Prod.fst := by
  rw [live, List.mem_filter, decide_eq_true_eq]

/-- The record of registrations that are removed. -/
def removals (registrations : List (Nat × α)) : Record α := registrations.map .unsubscribed

@[simp]
theorem subscribed_removals (registrations : List (Nat × α)) :
    (removals registrations).subscribed = [] := by
  simp [removals, subscribed]

@[simp]
theorem unsubscribed_removals (registrations : List (Nat × α)) :
    (removals registrations).unsubscribed = registrations := by
  simp [removals, unsubscribed]

@[simp]
theorem notified_removals (registrations : List (Nat × α)) :
    (removals registrations).notified = [] := by
  simp [removals, notified]

theorem live_subscribed {record : Record α} {registration : Nat × α}
    (unremoved : registration.1 ∉ record.unsubscribed.map Prod.fst) :
    Record.live (record ++ [.subscribed registration]) = record.live ++ [registration] := by
  have made : Record.subscribed [.subscribed registration] = [registration] := rfl
  have removed : Record.unsubscribed [.subscribed registration] = [] := rfl
  rw [live, subscribed_append, unsubscribed_append, made, removed, List.append_nil,
    List.filter_append, List.filter_cons_of_pos (by simpa using unremoved), List.filter_nil, live]

theorem live_notified (record : Record α) (registration : Nat × α) :
    Record.live (record ++ [.notified registration]) = record.live := by
  have made : Record.subscribed [.notified registration] = [] := rfl
  have removed : Record.unsubscribed [.notified registration] = [] := rfl
  rw [live, subscribed_append, unsubscribed_append, made, removed, List.append_nil,
    List.append_nil, live]

theorem live_removals (record : Record α) (registrations : List (Nat × α)) :
    Record.live (record ++ removals registrations) =
      record.live.filter fun registration =>
        decide (registration.1 ∉ registrations.map Prod.fst) := by
  rw [live, live, subscribed_append, unsubscribed_append, subscribed_removals,
    unsubscribed_removals, List.append_nil, List.filter_filter]
  refine List.filter_congr fun registration _ => ?_
  rw [List.map_append, ← Bool.decide_and, decide_eq_decide, List.mem_append, not_or, and_comm]

end Record
end EventBus

/-! ## Calls -/

namespace Chronicle

open EventBus

open scoped List

variable {α σ : Type}

/-- A bus that nobody has used. -/
def unused (memory : σ) : Chronicle α σ := ⟨.empty, memory, []⟩

/-- Makes a change to the bus. -/
def apply (chronicle : Chronicle α σ) : Change α → Chronicle α σ
  | .subscribe listener =>
    { chronicle with
      bus := (chronicle.bus.subscribe listener).2
      record := chronicle.record ++ [.subscribed (chronicle.bus.nextId, listener)] }
  | .unsubscribe subscription =>
    { chronicle with
      bus := (chronicle.bus.unsubscribe subscription).2
      record := chronicle.record ++ .removals (chronicle.bus.registrations.filter
        fun registration => registration.1 = subscription.id) }

/-- Notifies a listener, which then makes its changes to the bus. -/
def notify (conduct : Conduct α σ) (own : Subscription) (listener : α)
    (chronicle : Chronicle α σ) : Chronicle α σ :=
  let (changes, memory) := conduct (own.id, listener) chronicle.bus chronicle.memory
  changes.foldl apply
    { chronicle with memory, record := chronicle.record ++ [.notified (own.id, listener)] }

/-- Delivers an event to the listeners of the bus. -/
def call (chronicle : Chronicle α σ) (conduct : Conduct α σ) : Chronicle α σ :=
  chronicle.bus.deliver (notify conduct) chronicle

/-- What happens on the bus during a call. -/
def during (chronicle : Chronicle α σ) (conduct : Conduct α σ) : Record α :=
  (chronicle.call conduct).record.drop chronicle.record.length

/-- Anyone changes the bus, or an event is delivered to listeners of some conduct. -/
inductive Step : Chronicle α σ → Chronicle α σ → Prop where
  /-- A change between calls. -/
  | change (chronicle : Chronicle α σ) (change : Change α) : Step chronicle (chronicle.apply change)
  /-- A call. -/
  | call (chronicle : Chronicle α σ) (conduct : Conduct α σ) :
      Step chronicle (chronicle.call conduct)

/-- Any number of steps. -/
def Reaches : Chronicle α σ → Chronicle α σ → Prop := Relation.ReflTransGen Step

/-- The bus is as its record tells. -/
structure IsFaithful (chronicle : Chronicle α σ) : Prop where
  /-- Registrations are those that were made and not removed. -/
  registered : chronicle.bus.registrations = chronicle.record.live
  /-- Numbers of registrations that were made are not given out again. -/
  made : ∀ registration ∈ chronicle.record.subscribed, registration.1 < chronicle.bus.nextId
  /-- Only registrations that were made were removed. -/
  removed : ∀ registration ∈ chronicle.record.unsubscribed,
    registration.1 < chronicle.bus.nextId

/-- A chronicle goes on. -/
structure Continues (before after : Chronicle α σ) (happened : Record α) : Prop where
  /-- What happens is recorded. -/
  record : after.record = before.record ++ happened
  /-- Numbers are given out in order. -/
  nextId_le : before.bus.nextId ≤ after.bus.nextId
  /-- New registrations have new numbers. -/
  fresh : ∀ registration ∈ happened.subscribed, before.bus.nextId ≤ registration.1
  /-- The record stays faithful. -/
  faithful : before.IsFaithful → after.IsFaithful

namespace Continues

theorem refl (chronicle : Chronicle α σ) : chronicle.Continues chronicle [] :=
  ⟨(List.append_nil _).symm, Nat.le_refl _, nofun, id⟩

theorem trans {first second third : Chronicle α σ} {early late : Record α}
    (before : first.Continues second early) (after : second.Continues third late) :
    first.Continues third (early ++ late) where
  record := by rw [after.record, before.record, List.append_assoc]
  nextId_le := Nat.le_trans before.nextId_le after.nextId_le
  fresh registration made := by
    rw [Record.subscribed_append] at made
    rcases List.mem_append.mp made with first | second
    · exact before.fresh registration first
    · exact Nat.le_trans before.nextId_le (after.fresh registration second)
  faithful faithful := after.faithful (before.faithful faithful)

end Continues

theorem isFaithful_unused (memory : σ) : (unused memory : Chronicle α σ).IsFaithful :=
  ⟨rfl, nofun, nofun⟩

/-! ## One change -/

theorem IsFaithful.subscribe {chronicle : Chronicle α σ} (faithful : chronicle.IsFaithful)
    (listener : α) : (chronicle.apply (.subscribe listener)).IsFaithful where
  registered := by
    have unremoved : chronicle.bus.nextId ∉ chronicle.record.unsubscribed.map Prod.fst := by
      intro removed
      obtain ⟨registration, listed, same⟩ := List.mem_map.mp removed
      exact absurd (faithful.removed registration listed) (by omega)
    rw [apply, Record.live_subscribed unremoved, registrations_subscribe, faithful.registered]
  made registration listed := by
    rw [apply, Record.subscribed_append] at listed
    rcases List.mem_append.mp listed with old | new
    · exact Nat.lt_succ_of_lt (faithful.made registration old)
    · obtain rfl := List.mem_singleton.mp new
      exact Nat.lt_succ_self _
  removed registration listed := by
    rw [apply, Record.unsubscribed_append] at listed
    rcases List.mem_append.mp listed with old | new
    · exact Nat.lt_succ_of_lt (faithful.removed registration old)
    · cases new

theorem IsFaithful.unsubscribe {chronicle : Chronicle α σ} (faithful : chronicle.IsFaithful)
    (subscription : Subscription) :
    (chronicle.apply (.unsubscribe subscription)).IsFaithful where
  registered := by
    rw [apply, Record.live_removals, ← faithful.registered, registrations_unsubscribe]
    refine List.filter_congr fun registration registered => decide_eq_decide.mpr (not_congr ?_)
    constructor
    · intro same
      exact List.mem_map_of_mem (List.mem_filter.mpr ⟨registered, decide_eq_true same⟩)
    · intro removed
      obtain ⟨other, listed, same⟩ := List.mem_map.mp removed
      exact same ▸ of_decide_eq_true (List.mem_filter.mp listed).2
  made registration listed := by
    rw [apply, Record.subscribed_append, Record.subscribed_removals, List.append_nil] at listed
    exact faithful.made registration listed
  removed registration listed := by
    rw [apply, Record.unsubscribed_append, Record.unsubscribed_removals] at listed
    rcases List.mem_append.mp listed with old | new
    · exact faithful.removed registration old
    · have registered : registration ∈ chronicle.bus.registrations := (List.mem_filter.mp new).1
      have below : registration.1 < chronicle.bus.nextId := id_lt_nextId registered
      exact below

/-- A change is recorded, and it notifies nobody. -/
theorem continues_apply (chronicle : Chronicle α σ) (change : Change α) :
    ∃ happened, chronicle.Continues (chronicle.apply change) happened ∧
      happened.notified = [] := by
  cases change with
  | subscribe listener =>
      refine ⟨[.subscribed (chronicle.bus.nextId, listener)], ⟨rfl, Nat.le_succ _, ?_, ?_⟩, rfl⟩
      · intro registration made
        obtain rfl := List.mem_singleton.mp made
        exact Nat.le_refl _
      · exact fun faithful => faithful.subscribe listener
  | unsubscribe subscription =>
      refine ⟨_, ⟨rfl, Nat.le_refl _, ?_, ?_⟩, Record.notified_removals _⟩
      · intro registration made
        rw [Record.subscribed_removals] at made
        cases made
      · exact fun faithful => faithful.unsubscribe subscription

theorem continues_changes (chronicle : Chronicle α σ) (changes : List (Change α)) :
    ∃ happened, chronicle.Continues (changes.foldl apply chronicle) happened ∧
      happened.notified = [] := by
  induction changes generalizing chronicle with
  | nil => exact ⟨[], .refl chronicle, rfl⟩
  | cons change rest hypothesis =>
      obtain ⟨early, first, silent⟩ := continues_apply chronicle change
      obtain ⟨late, others, quiet⟩ := hypothesis (chronicle.apply change)
      refine ⟨early ++ late, first.trans others, ?_⟩
      rw [Record.notified_append, silent, quiet, List.append_nil]

/-! ## One notification -/

/-- A notification is recorded once, whatever the listener does. -/
theorem continues_notify (conduct : Conduct α σ) (registration : Nat × α)
    (chronicle : Chronicle α σ) :
    ∃ happened, chronicle.Continues (notify conduct ⟨registration.1⟩ registration.2 chronicle)
      happened ∧ happened.notified = [registration] := by
  rw [notify]
  generalize conduct (registration.1, registration.2) chronicle.bus chronicle.memory = done
  obtain ⟨changes, memory⟩ := done
  have noted : chronicle.Continues
      { chronicle with memory, record := chronicle.record ++ [.notified registration] }
      [.notified registration] := by
    refine ⟨rfl, Nat.le_refl _, nofun, fun faithful => ⟨?_, ?_, ?_⟩⟩
    · rw [Record.live_notified, faithful.registered]
    · simpa [Record.subscribed] using faithful.made
    · simpa [Record.unsubscribed] using faithful.removed
  obtain ⟨happened, changed, silent⟩ := continues_changes
    { chronicle with memory, record := chronicle.record ++ [.notified registration] } changes
  refine ⟨[.notified registration] ++ happened, noted.trans changed, ?_⟩
  rw [Record.notified_append, silent, List.append_nil]
  rfl

/-- Delivery to a list of registrations notifies each of them once and in order. -/
theorem continues_foldl (conduct : Conduct α σ) (registrations : List (Nat × α))
    (chronicle : Chronicle α σ) :
    ∃ happened, chronicle.Continues
      (registrations.foldl (fun chronicle registration =>
        notify conduct ⟨registration.1⟩ registration.2 chronicle) chronicle) happened ∧
      happened.notified = registrations := by
  induction registrations generalizing chronicle with
  | nil => exact ⟨[], .refl chronicle, rfl⟩
  | cons registration rest hypothesis =>
      obtain ⟨early, first, one⟩ := continues_notify conduct registration chronicle
      obtain ⟨late, others, remaining⟩ :=
        hypothesis (notify conduct ⟨registration.1⟩ registration.2 chronicle)
      refine ⟨early ++ late, first.trans others, ?_⟩
      rw [Record.notified_append, one, remaining, List.singleton_append]

/-! ## Calls after any history -/

theorem continues_call (chronicle : Chronicle α σ) (conduct : Conduct α σ) :
    chronicle.Continues (chronicle.call conduct) (chronicle.during conduct) ∧
      (chronicle.during conduct).notified = chronicle.bus.registrations := by
  obtain ⟨happened, continues, notified⟩ :=
    continues_foldl conduct chronicle.bus.registrations chronicle
  have during : chronicle.during conduct = happened := by
    rw [during, call, deliver, continues.record, List.drop_left]
  rw [during]
  exact ⟨continues, notified⟩

theorem Step.continues {before after : Chronicle α σ} (step : Step before after) :
    ∃ happened, before.Continues after happened := by
  cases step with
  | change change =>
      obtain ⟨happened, continues, -⟩ := continues_apply before change
      exact ⟨happened, continues⟩
  | call conduct => exact ⟨_, (continues_call before conduct).1⟩

theorem Reaches.continues {before after : Chronicle α σ} (reaches : Reaches before after) :
    ∃ happened, before.Continues after happened := by
  induction reaches with
  | refl => exact ⟨[], .refl before⟩
  | tail _ step hypothesis =>
      obtain ⟨early, first⟩ := hypothesis
      obtain ⟨late, last⟩ := step.continues
      exact ⟨early ++ late, first.trans last⟩

theorem Reaches.faithful {memory : σ} {chronicle : Chronicle α σ}
    (reaches : Reaches (unused memory) chronicle) : chronicle.IsFaithful := by
  obtain ⟨happened, continues⟩ := reaches.continues
  exact continues.faithful (isFaithful_unused memory)

theorem filter_id_eq_singleton {bus : EventBus α} {registration : Nat × α}
    (registered : registration ∈ bus.registrations) :
    (bus.registrations.filter fun other => other.1 = registration.1) = [registration] := by
  obtain ⟨front, back, split, others⟩ := split_of_mem registered
  rw [split, List.filter_append, List.filter_cons_of_pos (by simp),
    List.filter_eq_nil_iff.mpr fun other listed => by simpa using others other (by simp [listed]),
    List.filter_eq_nil_iff.mpr fun other listed => by simpa using others other (by simp [listed]),
    List.nil_append]

/-- What a call does, from a state of a bus on. -/
structure Delivers (before : Chronicle α σ) (conduct : Conduct α σ) : Prop where
  /-- The registrations that were made and not removed before the call are notified, each once, in
  the order in which they were made. -/
  notified : (before.during conduct).notified = before.record.live
  /-- They are those of the bus. -/
  registered : before.bus.registrations = before.record.live
  /-- Their numbers increase. -/
  ordered : (before.record.live.map Prod.fst).Pairwise (· < ·)
  /-- A table that lists them in any order gives the same call. -/
  table : ∀ table, table ~ before.bus.registrations →
    deliverTable table (notify conduct) before = before.call conduct
  /-- A registration that is made during the call is not notified by it; a later call notifies it
  once, if it was not removed meanwhile. -/
  added : ∀ new ∈ (before.during conduct).subscribed,
    new.1 ∉ (before.during conduct).notified.map Prod.fst ∧
      ∀ later, Reaches (before.call conduct) later →
        new.1 ∉ later.record.unsubscribed.map Prod.fst → ∀ conduct : Conduct α σ,
          ((later.during conduct).notified.filter fun other => other.1 = new.1) = [new]
  /-- A registration that is removed during the call is notified by it, if it was there before; no
  later call notifies it. -/
  removed : ∀ old ∈ (before.during conduct).unsubscribed,
    (old ∈ before.record.live → old ∈ (before.during conduct).notified) ∧
      ∀ later, Reaches (before.call conduct) later → ∀ conduct : Conduct α σ,
        old.1 ∉ (later.during conduct).notified.map Prod.fst

/-- A call that comes later notifies what is registered then, after what was recorded up to it. -/
theorem IsFaithful.later_call {before later : Chronicle α σ} (faithful : before.IsFaithful)
    {conduct : Conduct α σ} (onward : Reaches (before.call conduct) later) (other : Conduct α σ) :
    (later.during other).notified = later.bus.registrations ∧ later.IsFaithful ∧
      ∃ meanwhile, later.record = before.record ++ before.during conduct ++ meanwhile := by
  obtain ⟨continues, -⟩ := before.continues_call conduct
  obtain ⟨meanwhile, onwards⟩ := onward.continues
  refine ⟨(later.continues_call other).2, onwards.faithful (continues.faithful faithful),
    meanwhile, ?_⟩
  rw [onwards.record, continues.record]

/-- Whatever was done to a bus before and whatever the listeners do to it while they are notified,
an event goes to the listeners that were registered when the call began. -/
theorem delivers_of_reaches {memory : σ} {before : Chronicle α σ}
    (reaches : Reaches (unused memory) before) (conduct : Conduct α σ) :
    before.Delivers conduct := by
  have faithful := reaches.faithful
  obtain ⟨continues, notified⟩ := before.continues_call conduct
  refine
    { notified := notified.trans faithful.registered
      registered := faithful.registered
      ordered := faithful.registered ▸ before.bus.increasing
      table := fun table lists => deliverTable_eq before.bus lists (notify conduct) before
      added := fun new made => ⟨?_, fun later onward unremoved other => ?_⟩
      removed := fun old gone => ⟨fun listed => ?_, fun later onward other => ?_⟩ }
  · rw [notified]
    intro listed
    obtain ⟨registration, registered, same⟩ := List.mem_map.mp listed
    have below := id_lt_nextId registered
    have above := continues.fresh new made
    omega
  · obtain ⟨calls, kept, meanwhile, record⟩ := faithful.later_call onward other
    have registered : new ∈ later.bus.registrations := by
      rw [kept.registered]
      refine Record.mem_live.mpr ⟨?_, unremoved⟩
      rw [record, Record.subscribed_append, Record.subscribed_append]
      exact List.mem_append_left _ (List.mem_append_right _ made)
    rw [calls]
    exact filter_id_eq_singleton registered
  · rw [notified, faithful.registered]
    exact listed
  · obtain ⟨calls, kept, meanwhile, record⟩ := faithful.later_call onward other
    have removed : old.1 ∈ later.record.unsubscribed.map Prod.fst := by
      refine List.mem_map_of_mem ?_
      rw [record, Record.unsubscribed_append, Record.unsubscribed_append]
      exact List.mem_append_left _ (List.mem_append_right _ gone)
    rw [calls, kept.registered]
    intro listed
    obtain ⟨registration, live, same⟩ := List.mem_map.mp listed
    exact (Record.mem_live.mp live).2 (same ▸ removed)

/-- The listener that goes first gives up its own registration and the next one, and registers
another listener. -/
def leading : Conduct String Unit := fun registration _ memory =>
  (if registration.2 = "first" then
    [.unsubscribe ⟨registration.1⟩, .unsubscribe ⟨registration.1 + 1⟩, .subscribe "third"]
  else [], memory)

/-- Both are notified, and only the new one stays. -/
theorem delivers_of_reaches_leading :
    ∃ before : Chronicle String Unit, Reaches (unused ()) before ∧ before.Delivers leading ∧
      (before.during leading).notified = [(0, "first"), (1, "second")] ∧
      (before.call leading).bus.registrations = [(2, "third")] := by
  have reaches : Reaches (unused () : Chronicle String Unit) _ :=
    .tail (.tail .refl (.change _ (.subscribe "first"))) (.change _ (.subscribe "second"))
  exact ⟨_, reaches, delivers_of_reaches reaches leading, by decide, by decide⟩

end Chronicle
end ClassEnhancement
