import ClassEnhancement.Proofs.Hub.Registrations
import Mathlib.Data.List.Induction

/-!
# Leaving the registry

A component leaves the registry when its project is closed, or when another component is registered
under its last name.  Closing disables it.  Another registration does not: a component that was
enabled goes on listening, and no project switches it any more.  Apart from components that were
left behind in this way, only components with a project listen.
-/

namespace ClassEnhancement
namespace Hub

variable {α : Type}

open scoped List

/-! ## Calls -/

/-- What is asked of the registry and of the toggle over it. -/
inductive Call where
  /-- A component is registered for a project. -/
  | register (project : String) (component : Nat)
  /-- A project is closed. -/
  | close (project : String)
  /-- A project is switched. -/
  | select (project : String) (on : Bool)
  deriving DecidableEq

/-- The hub after a call. -/
def obey (hub : Hub α) : Call → Hub α
  | .register project component => hub.register project component
  | .close project => (hub.close project).2
  | .select project on => hub.select project on

/-- The hub after calls, one after another. -/
def after (hub : Hub α) (calls : List Call) : Hub α := calls.foldl obey hub

@[simp]
theorem after_concat (hub : Hub α) (calls : List Call) (call : Call) :
    hub.after (calls ++ [call]) = (hub.after calls).obey call := by
  simp [after]

variable {hub start : Hub α} {calls : List Call} {call : Call} {component : Nat} {project : String}

theorem component?_register (hub : Hub α) (project : String) (component : Nat) (other : String) :
    (hub.register project component).component? other =
      if other = project then some component else hub.component? other := by
  split
  · next same => rw [same, component?, register, OrderedMap.find?_insert_self]
  · next different => rw [component?, register, OrderedMap.find?_insert_of_ne _ different, component?]

theorem component?_close (hub : Hub α) (project other : String) :
    (hub.close project).2.component? other =
      if other = project then none else hub.component? other := by
  cases found : hub.component? project with
  | none =>
      have same_hub : (hub.close project).2 = hub := by rw [close, found]
      rw [same_hub]
      split
      · next same => rw [same, found]
      · rfl
  | some component =>
      have closes : (hub.close project).2 =
          ({ hub with registry := hub.registry.erase project } : Hub α).switch component false := by
        rw [close, found]
      rw [closes, component?, registry_switch]
      split
      · next same => rw [same, OrderedMap.find?_erase_self]
      · next different => rw [OrderedMap.find?_erase_of_ne _ different, component?]

theorem component?_select (hub : Hub α) (project : String) (on : Bool) (other : String) :
    (hub.select project on).component? other = hub.component? other := by
  rw [select]
  split
  · rfl
  · rw [component?, registry_switch, component?]

theorem isEnabled_switch_off (hub : Hub α) (component : Nat) :
    (hub.switch component false).isEnabled component = false := by
  by_cases inside : component < hub.components.length
  · exact isEnabled_switch_self inside false
  · exact isEnabled_of_le (by simpa using inside)

/-- Closing disables the component of the project. -/
theorem isEnabled_close_self (found : hub.component? project = some component) :
    (hub.close project).2.isEnabled component = false := by
  rw [close, found]
  exact isEnabled_switch_off _ component

theorem isEnabled_close_of_ne (elsewhere : hub.component? project ≠ some component) :
    (hub.close project).2.isEnabled component = hub.isEnabled component := by
  rw [close]
  split
  · rfl
  · next other found =>
      have different : component ≠ other := fun same => elsewhere (same ▸ found)
      exact isEnabled_switch_of_ne different false

theorem isEnabled_select_of_ne (on : Bool) (elsewhere : hub.component? project ≠ some component) :
    (hub.select project on).isEnabled component = hub.isEnabled component := by
  rw [select]
  split
  · rfl
  · next other found =>
      have different : component ≠ other := fun same => elsewhere (same ▸ found)
      exact isEnabled_switch_of_ne different on

/-! ## Components without a project -/

/-- A component that is enabled although no project has it. -/
def Outlives (hub : Hub α) (component : Nat) : Prop :=
  hub.isEnabled component = true ∧ ∀ project, hub.component? project ≠ some component

/-- A call that gives the last name of an enabled component to another one. -/
def Strands (hub : Hub α) (component : Nat) : Call → Prop
  | .register project next =>
    hub.isEnabled component = true ∧ hub.component? project = some component ∧
      next ≠ component ∧ ∀ other, hub.component? other = some component → other = project
  | .close _ => False
  | .select _ _ => False

/-- A component that some call has stranded, and that was not registered since. -/
def Stranded (start : Hub α) (calls : List Call) (component : Nat) : Prop :=
  ∃ early call late, calls = early ++ call :: late ∧ (start.after early).Strands component call ∧
    ∀ project, Call.register project component ∉ late

/-- One call: a component without a project stays enabled until it is registered, and another one
joins it when it is stranded. -/
theorem outlives_obey_iff (hub : Hub α) (component : Nat) (call : Call) :
    (hub.obey call).Outlives component ↔
      hub.Outlives component ∧ (∀ project, call ≠ .register project component) ∨
        hub.Strands component call := by
  cases call with
  | register project next =>
      have enabled_eq : (hub.register project next).isEnabled component = hub.isEnabled component :=
        rfl
      simp only [obey, Outlives, Strands, enabled_eq, component?_register, ne_eq, Call.register.injEq]
      constructor
      · rintro ⟨enabled, unnamed⟩
        have fresh : next ≠ component := by
          rintro rfl
          exact unnamed project (if_pos rfl)
        have elsewhere : ∀ other, hub.component? other = some component → other = project := by
          intro other named
          by_contra different
          exact unnamed other (by rw [if_neg different, named])
        by_cases here : hub.component? project = some component
        · exact .inr ⟨enabled, here, fresh, elsewhere⟩
        · refine .inl ⟨⟨enabled, fun other named => ?_⟩, fun _ same => fresh same.2⟩
          exact here (elsewhere other named ▸ named)
      · rintro (⟨⟨enabled, unnamed⟩, unasked⟩ | ⟨enabled, -, fresh, elsewhere⟩)
        · refine ⟨enabled, fun other => ?_⟩
          split
          · exact fun same => unasked project ⟨rfl, Option.some.inj same⟩
          · exact unnamed other
        · refine ⟨enabled, fun other => ?_⟩
          split
          · exact fun same => fresh (Option.some.inj same)
          · next different => exact fun named => different (elsewhere other named)
  | close project =>
      simp only [obey, Outlives, Strands, component?_close, ne_eq, reduceCtorEq, not_false_eq_true,
        implies_true, and_true, or_false]
      by_cases here : hub.component? project = some component
      · constructor
        · rintro ⟨enabled, -⟩
          rw [isEnabled_close_self here] at enabled
          cases enabled
        · rintro ⟨-, unnamed⟩
          exact (unnamed project here).elim
      · rw [isEnabled_close_of_ne here]
        refine and_congr_right fun _ => forall_congr' fun other => not_congr ?_
        split
        · next same => simpa [same] using here
        · rfl
  | select project on =>
      simp only [obey, Outlives, Strands, component?_select, ne_eq, reduceCtorEq, not_false_eq_true,
        implies_true, and_true, or_false]
      by_cases here : hub.component? project = some component
      · exact ⟨fun outlives => (outlives.2 project here).elim,
          fun outlives => (outlives.2 project here).elim⟩
      · rw [isEnabled_select_of_ne on here]

/-- One more call strands a component, or leaves it stranded. -/
theorem stranded_concat_iff :
    Stranded start (calls ++ [call]) component ↔
      Stranded start calls component ∧ (∀ project, call ≠ .register project component) ∨
        (start.after calls).Strands component call := by
  constructor
  · rintro ⟨early, stranding, late, split, strands, unasked⟩
    rcases List.eq_nil_or_concat late with rfl | ⟨middle, last, rfl⟩
    · obtain ⟨rfl, same⟩ := List.append_inj' split rfl
      obtain rfl := List.singleton_inj.mp same
      exact .inr strands
    · rw [List.concat_eq_append] at split unasked
      rw [← List.cons_append, ← List.append_assoc] at split
      obtain ⟨rfl, same⟩ := List.append_inj' split rfl
      obtain rfl := List.singleton_inj.mp same
      exact .inl ⟨⟨early, stranding, middle, rfl, strands,
        fun project member => unasked project (List.mem_append_left _ member)⟩,
        fun project asked => unasked project (List.mem_append_right _ (by simp [asked]))⟩
  · rintro (⟨⟨early, stranding, late, rfl, strands, unasked⟩, unasked'⟩ | strands)
    · refine ⟨early, stranding, late ++ [call], by simp, strands, fun project member => ?_⟩
      rcases List.mem_append.mp member with sooner | last
      · exact unasked project sooner
      · exact unasked' project (List.mem_singleton.mp last).symm
    · exact ⟨calls, call, [], rfl, strands, fun _ => List.not_mem_nil⟩

/-- After calls, the components without a project that are enabled are those that were stranded. -/
theorem outlives_after_iff (idle : start.isEnabled component = false) :
    (start.after calls).Outlives component ↔ Stranded start calls component := by
  induction calls using List.reverseRecOn with
  | nil =>
      constructor
      · rintro ⟨enabled, -⟩
        exact absurd enabled (by simp [after, idle])
      · rintro ⟨early, call, late, split, -, -⟩
        simp at split
  | append_singleton calls call hypothesis =>
      rw [after_concat, outlives_obey_iff, stranded_concat_iff, hypothesis]

/-! ## What is heard on a bus -/

/-- Calls for components of the hub. -/
def Known (start : Hub α) (calls : List Call) : Prop :=
  ∀ project component, Call.register project component ∈ calls → component < start.components.length

/-- Calls keep the books of a hub, and make no direct registration. -/
theorem exists_balanced_after {ledger : Ledger α} (balanced : start.Balanced ledger)
    (known : start.Known calls) :
    (start.after calls).components.length = start.components.length ∧
      ∃ later, (start.after calls).Balanced later ∧ later.direct = ledger.direct := by
  induction calls using List.reverseRecOn with
  | nil => exact ⟨rfl, ledger, balanced, rfl⟩
  | append_singleton calls call hypothesis =>
      obtain ⟨same_length, later, kept, direct_eq⟩ := hypothesis fun project component member =>
        known project component (List.mem_append_left _ member)
      rw [after_concat]
      cases call with
      | register project component =>
          have inside := known project component (List.mem_append_right _ (by simp))
          exact ⟨same_length, _, kept.register project (same_length ▸ inside), direct_eq⟩
      | close project =>
          refine ⟨?_, _, kept.close project, ?_⟩
          · rw [obey, Hub.close]
            split
            · exact same_length
            · simpa using same_length
          · rw [Ledger.close, Ledger.select]
            split
            · exact direct_eq
            · exact direct_eq
      | select project on =>
          refine ⟨?_, _, kept.select project on, ?_⟩
          · rw [obey, Hub.select]
            split
            · exact same_length
            · simpa using same_length
          · rw [Ledger.select]
            split
            · exact direct_eq
            · exact direct_eq

/-- A hub that was built by steps, where no component is enabled. -/
structure IsIdle (hub : Hub α) : Prop where
  built : ∃ ledger, Reaches (empty, .empty) (hub, ledger)
  idle : ∀ component, hub.isEnabled component = false

theorem enabledOn_eq_nil (idle : ∀ component, hub.isEnabled component = false) (bus : Nat) :
    hub.enabledOn bus = [] := by
  rw [enabledOn, List.filterMap_eq_nil_iff]
  intro component listed
  obtain ⟨index, found⟩ := List.mem_iff_getElem?.mp listed
  have off := idle index
  rw [isEnabled_of_components found, Enablement.isEnabled] at off
  have unsubscribed : component.subscription = none := by simpa using off
  simp [heldOn, unsubscribed]

/-- Who listens after calls: the direct listeners, and every enabled component once. -/
theorem registrations_after (idle : start.IsIdle) (known : start.Known calls) (bus : Nat) :
    ((start.after calls).bus bus).registrations ~
      (start.bus bus).registrations ++ (start.after calls).enabledOn bus := by
  obtain ⟨ledger, reaches⟩ := idle.built
  obtain ⟨-, later, kept, direct_eq⟩ := exists_balanced_after reaches.balanced known
  have at_first := reaches.balanced.registrations bus
  have now := kept.registrations bus
  rw [enabledOn_eq_nil idle.idle, List.append_nil] at at_first
  rw [direct_eq] at now
  exact now.trans (at_first.symm.append_right _)

/-! ## Leaving -/

/-- What becomes of the components that calls register. -/
structure Leaves (start : Hub α) (calls : List Call) : Prop where
  /-- A bus is heard by the listeners that it had at first and by the enabled components. -/
  heard : ∀ bus, ((start.after calls).bus bus).registrations ~
    (start.bus bus).registrations ++ (start.after calls).enabledOn bus
  /-- The component of a project that is closed next is disabled. -/
  closed : ∀ project component, (start.after calls).component? project = some component →
    (start.after (calls ++ [.close project])).isEnabled component = false
  /-- An enabled component has a project, or it was left behind: the last project that had it was
  given another component while it was enabled, and it was not registered since. -/
  enabled_iff : ∀ component, (start.after calls).isEnabled component = true ∧
      (∀ project, (start.after calls).component? project ≠ some component) ↔
    Stranded start calls component
  /-- If no component was left behind and no project is selected, no component listens. -/
  silent : (∀ component, ¬ Stranded start calls component) →
    (∀ project, (start.after calls).isSelected project = false) →
    ∀ bus, ((start.after calls).bus bus).registrations ~ (start.bus bus).registrations
  /-- If no component was left behind, of two components that are enabled, registered in turn for
  one project or not, one has another project. -/
  alone : (∀ component, ¬ Stranded start calls component) → ∀ project first second,
    first ≠ second → (start.after calls).isEnabled first = true →
    (start.after calls).isEnabled second = true →
    ∃ other, other ≠ project ∧ ((start.after calls).component? other = some first ∨
      (start.after calls).component? other = some second)

/-- Components leave the registry disabled, unless they are stranded. -/
theorem leaves_of_isIdle (idle : start.IsIdle) (known : start.Known calls) :
    Leaves start calls := by
  have named : (∀ component, ¬ Stranded start calls component) → ∀ component,
      (start.after calls).isEnabled component = true →
      ∃ project, (start.after calls).component? project = some component := by
    intro unstranded component enabled
    by_contra unnamed
    exact unstranded component ((outlives_after_iff (idle.idle component)).mp
      ⟨enabled, fun project found => unnamed ⟨project, found⟩⟩)
  refine
    { heard := registrations_after idle known
      closed := fun project component found => ?_
      enabled_iff := fun component => outlives_after_iff (idle.idle component)
      silent := fun unstranded unselected bus => ?_
      alone := fun unstranded project first second different on_first on_second => ?_ }
  · rw [after_concat]
    exact isEnabled_close_self found
  · have off : ∀ component, (start.after calls).isEnabled component = false := by
      intro component
      by_contra enabled
      rw [Bool.not_eq_false] at enabled
      obtain ⟨project, found⟩ := named unstranded component enabled
      have selected := unselected project
      rw [isSelected, found] at selected
      exact absurd enabled (by simpa using selected)
    have heard := registrations_after idle known bus
    rwa [enabledOn_eq_nil off, List.append_nil] at heard
  · obtain ⟨project₁, found₁⟩ := named unstranded first on_first
    obtain ⟨project₂, found₂⟩ := named unstranded second on_second
    by_cases same : project₁ = project
    · refine ⟨project₂, fun same' => different ?_, .inr found₂⟩
      rw [same] at found₁
      rw [same'] at found₂
      exact Option.some.inj (found₁.symm.trans found₂)
    · exact ⟨project₁, same, .inl found₁⟩

/-! ## One component after another -/

/-- A bus with two components. -/
def pairOnBus : Hub String :=
  (((empty : Hub String).addBus.2.addComponent 0 "first").2.addComponent 0 "second").2

/-- The first component is enabled when its project is given the second one. -/
def replacing : List Call := [.register "shop" 0, .select "shop" true, .register "shop" 1]

theorem isIdle_pairOnBus : pairOnBus.IsIdle where
  built := ⟨_, .tail (.tail (.tail .refl (.addBus _ _))
    (.addComponent _ (show 0 < _ by decide) "first"))
    (.addComponent _ (show 0 < _ by decide) "second")⟩
  idle
    | 0 => rfl
    | 1 => rfl
    | component + 2 => isEnabled_of_le (by simp [pairOnBus, addComponent, addBus, empty])

/-- The first component is left behind. -/
theorem leaves_of_replacing :
    pairOnBus.IsIdle ∧ pairOnBus.Known replacing ∧ Leaves pairOnBus replacing ∧
      Stranded pairOnBus replacing 0 := by
  have known : pairOnBus.Known replacing := by
    intro project component member
    have few : component = 0 ∨ component = 1 := by
      rcases List.mem_cons.mp member with same | later
      · exact .inl (Call.register.inj same).2
      · exact .inr (by simpa using later : project = "shop" ∧ component = 1).2
    have two : pairOnBus.components.length = 2 := by decide
    omega
  have leaves := leaves_of_isIdle isIdle_pairOnBus known
  have unnamed : ∀ project, (pairOnBus.after replacing).component? project ≠ some 0 := by
    intro project
    change (((pairOnBus.register "shop" 0).select "shop" true).register "shop" 1).component? project ≠
      some 0
    rw [component?_register, component?_select, component?_register]
    split
    · decide
    · nofun
  exact ⟨isIdle_pairOnBus, known, leaves, (leaves.enabled_iff 0).mp ⟨by decide, unnamed⟩⟩

/-- The first component goes on listening when its project has been closed and no project is left,
and it listens beside the second one when the project is switched on again. -/
theorem replaced_goes_on_listening :
    let closed := pairOnBus.after (replacing ++ [.close "shop"])
    let selected := pairOnBus.after (replacing ++ [.select "shop" true])
    closed.registry.keys = [] ∧ (∀ project, closed.isSelected project = false) ∧
      closed.isEnabled 0 = true ∧ (closed.bus 0).registrations = [(0, "first")] ∧
      (selected.bus 0).registrations = [(0, "first"), (1, "second")] := by
  refine ⟨by decide, fun project => ?_, by decide, by decide, by decide⟩
  have unknown : (pairOnBus.after (replacing ++ [.close "shop"])).component? project = none := by
    change ((((pairOnBus.register "shop" 0).select "shop" true).register "shop" 1).close
      "shop").2.component? project = none
    rw [component?_close, component?_register, component?_select, component?_register]
    split
    · rfl
    · rfl
  rw [isSelected, unknown]
  rfl

end Hub
end ClassEnhancement
