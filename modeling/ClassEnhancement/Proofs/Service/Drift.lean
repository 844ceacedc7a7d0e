import ClassEnhancement.Proofs.Service.Events
import ClassEnhancement.Proofs.Settings.Loading

/-!
# Switches that cannot be stored

A service is switched before its switch is stored.  When storing fails, the settings stay what they
were and the service does not: it is what it was asked to be, with or without the registration of
its listener.  Only a service that was so before is left alone.
-/

namespace ClassEnhancement

namespace Hub

variable {hub : Hub BusListener} {index bus component : Nat}

/-! ## The registration of a service that is switched -/

theorem Serves.isEnabled_switch (serves : hub.Serves index bus component) (on : Bool) :
    (hub.switch component on).isEnabled component = on := by
  obtain ⟨-, -, subscription, found, -⟩ := serves
  exact isEnabled_switch_self (List.getElem?_eq_some_iff.mp found).1 on

/-- A service is left alone if it is as it is asked to be; otherwise its own registration comes or
goes. -/
theorem Serves.switch_cases (serves : hub.Serves index bus component) (on : Bool) :
    (hub.isEnabled component = on ∧ hub.switch component on = hub) ∨
      (hub.isEnabled component = false ∧ on = true ∧
        (hub.switch component on).bus bus = ((hub.bus bus).subscribe (.enhancement index)).2) ∨
      (hub.isEnabled component = true ∧ on = false ∧ ∃ own : Subscription,
        (own.id, BusListener.enhancement index) ∈ (hub.bus bus).registrations ∧
          (hub.switch component on).bus bus = ((hub.bus bus).unsubscribe own).2) := by
  obtain ⟨placed, -, subscription, found, registered⟩ := serves
  rw [isEnabled_of_components found]
  rcases hub.switch_cases component on with ⟨same, settled⟩ | ⟨held, present, switched⟩
  · exact .inl ⟨settled _ found, same⟩
  obtain rfl := Option.some.inj (found.symm.trans present)
  rcases switched with ⟨off, rfl, on_eq⟩ | ⟨own, held_own, rfl, off_eq⟩
  · obtain rfl : subscription = none := off
    refine .inr (.inl ⟨rfl, rfl, ?_⟩)
    rw [on_eq, bus_setSubscription, bus_subscribe_self placed]
  · obtain rfl : subscription = some own := held_own
    refine .inr (.inr ⟨rfl, rfl, own, (registered own.id index).mpr ⟨rfl, rfl⟩, ?_⟩)
    rw [off_eq, bus_setSubscription, bus_unsubscribe_self placed]

/-- A service that is as it is asked to be is left alone. -/
theorem Serves.switch_eq_self_iff (serves : hub.Serves index bus component) {on : Bool} :
    hub.switch component on = hub ↔ hub.isEnabled component = on := by
  constructor
  · intro same
    rw [← serves.isEnabled_switch on, same]
  · intro settled
    rcases serves.switch_cases on with ⟨-, same⟩ | ⟨off, rfl, -⟩ | ⟨enabled, rfl, -⟩
    · exact same
    · cases off.symm.trans settled
    · cases enabled.symm.trans settled

end Hub

namespace Workspace

variable {σ : Type} {index : Nat} {service : Service σ} {before after : Workspace σ}
  {tree left : FileTree} {on : Bool} {error : ServiceError}

/-! ## Services after a switch that was not stored -/

/-- What a service and its settings come to when the service was to be switched, and its switch
could not be stored. -/
structure Drifts (index : Nat) (service : Service σ) (on : Bool) (error : ServiceError)
    (before after : Workspace σ) (tree left : FileTree) : Prop where
  /-- The service is what it was asked to be. -/
  enabled : after.isEnabled service = on
  /-- Nothing is changed just where it was so already. -/
  unchanged_iff : after = before ↔ before.isEnabled service = on
  /-- A service that was off is registered. -/
  registered : before.isEnabled service = false → on = true →
    (after.hub.bus service.bus).registrations = (before.hub.bus service.bus).registrations ++
      [((before.hub.bus service.bus).nextId, .enhancement index)]
  /-- A service that was on is registered no longer. -/
  unregistered : before.isEnabled service = true → on = false →
    ∃ id, (id, .enhancement index) ∈ (before.hub.bus service.bus).registrations ∧
      (after.hub.bus service.bus).registrations =
        (before.hub.bus service.bus).registrations.filter fun registration => registration.1 ≠ id
  /-- Other buses keep their registrations. -/
  buses : ∀ bus, bus ≠ service.bus → after.hub.bus bus = before.hub.bus bus
  /-- Other components stay as they are. -/
  components : ∀ component, component ≠ service.component →
    after.hub.isEnabled component = before.hub.isEnabled component
  /-- Every file keeps its contents. -/
  files : tree.Extends left
  /-- The settings file can be read as before, or not. -/
  stored : ∀ content, left.read service.settings.path = .ok content ↔
    tree.read service.settings.path = .ok content
  /-- If the settings could not be read or understood, the files are as they were altogether. -/
  untouched : (∀ cause, error ≠ .settings (.unwritable service.settings.path cause)) → left = tree
  /-- The service and its settings agree afterwards if the settings said before what the service was
  asked to be. -/
  agrees_iff : after.isEnabled service = service.settings.isOn left ↔
    service.settings.isOn tree = on

theorem setEnabled_failed
    (failed : before.setEnabled tree service on = (after, left, .error error)) :
    after = { before with hub := before.hub.switch service.component on } ∧
      ∃ cause, error = .settings cause ∧
        service.settings.save tree ⟨after.isEnabled service⟩ = (left, .error cause) := by
  obtain ⟨rfl, stored⟩ := Prod.mk.inj failed
  refine ⟨rfl, ?_⟩
  rw [save] at stored
  split at stored
  · cases (Prod.mk.inj stored).2
  · next cause refused =>
      obtain ⟨rfl, same⟩ := Prod.mk.inj stored
      exact ⟨cause, (Except.error.inj same).symm, refused⟩

/-- Whatever was done with the services before, a service whose switch cannot be stored is switched
all the same, and its settings are not. -/
theorem drifts_of_reaches {agent : σ} (reaches : Reaches (empty agent) before)
    (found : before.services[index]? = some service)
    (failed : before.setEnabled tree service on = (after, left, .error error)) :
    Drifts index service on error before after tree left := by
  have serves := reaches.isSound.serves index service found
  obtain ⟨rfl, cause, rfl, refused⟩ := setEnabled_failed failed
  have switched : (before.hub.switch service.component on).isEnabled service.component = on :=
    serves.isEnabled_switch on
  constructor
  · exact switched
  · exact Iff.trans ⟨fun same => congrArg Workspace.hub same,
      fun same => congrArg (fun hub => { before with hub }) same⟩ serves.switch_eq_self_iff
  · intro disabled asked
    rcases serves.switch_cases on with ⟨settled, -⟩ | ⟨-, -, added⟩ | ⟨enabled, -⟩
    · cases asked.symm.trans (settled.symm.trans disabled)
    · exact congrArg EventBus.registrations added
    · cases enabled.symm.trans disabled
  · intro enabled asked
    rcases serves.switch_cases on with ⟨settled, -⟩ | ⟨disabled, -⟩ | ⟨-, -, own, listed, removed⟩
    · cases asked.symm.trans (settled.symm.trans enabled)
    · cases disabled.symm.trans enabled
    · exact ⟨own.id, listed, congrArg EventBus.registrations removed⟩
  · intro bus elsewhere
    obtain ⟨-, -, subscription, held, -⟩ := serves
    refine Hub.bus_switch_of_ne on fun component present same => elsewhere ?_
    obtain rfl := Option.some.inj (held.symm.trans present)
    exact same.symm
  · exact fun component other => Hub.isEnabled_switch_of_ne other on
  · exact (SettingsStore.extends_of_failed refused).1
  · exact SettingsStore.read_of_failed refused
  · exact fun unwritten => SettingsStore.eq_of_failed refused
      fun cause same => unwritten cause (congrArg ServiceError.settings same)
  · rw [SettingsStore.isOn_of_failed refused]
    exact ⟨fun same => same.symm.trans switched, fun same => switched.trans same.symm⟩

/-! ## Settings that hold no text -/

/-- Files whose settings are no text. -/
def garbledFiles : FileTree := (FileTree.empty ["work"]).put ["work", "s.json"] (.file [0xff])

/-- A service that was off is on after a call that failed, and its settings are as they were. -/
theorem drifts_of_garbled :
    ∃ (after : Workspace Unit) (left : FileTree) (error : ServiceError),
      Reaches (empty ()) opened ∧ opened.services[0]? = some awaited ∧
        opened.setEnabled garbledFiles awaited true = (after, left, .error error) ∧
        opened.isEnabled awaited = false ∧ opened.listenerCount awaited = 0 ∧
        after.isEnabled awaited = true ∧ after.listenerCount awaited = 1 ∧
        left = garbledFiles := by
  have reached : Reaches (empty ()) opened := .tail .refl (.opened _ _ _ _ _ _)
  have found : opened.services[0]? = some awaited := rfl
  have failed : opened.setEnabled garbledFiles awaited true =
      ({ opened with hub := opened.hub.switch awaited.component true }, garbledFiles,
        .error (.settings (.unreadable ⟨"/work/s.json"⟩ .notText))) := rfl
  have drifts := drifts_of_reaches reached found failed
  refine ⟨_, _, _, reached, found, failed, rfl, rfl, drifts.enabled, ?_, drifts.untouched nofun⟩
  exact congrArg List.length (drifts.registered rfl rfl)

end Workspace
end ClassEnhancement
