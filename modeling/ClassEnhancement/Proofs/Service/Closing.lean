import ClassEnhancement.Proofs.Hub.Switching
import ClassEnhancement.Proofs.Settings.Loading
import ClassEnhancement.Service.Compilation
import Mathlib.Logic.Relation

/-!
# Closing and opening again

A service that is opened again is what its component was when the service was closed.  That is what
the user chose last, unless the registry closed the project in between: then it is off.
-/

namespace ClassEnhancement

/-- A workspace in which one service is in use, its files, and what was done with the service. -/
structure ServiceSession (σ : Type) where
  workspace : Workspace σ
  tree : FileTree
  /-- What the user chose last, or what was stored when the service was opened. -/
  choice : Bool
  /-- Whether the registry closed the project since then. -/
  forced : Bool
  /-- Whether the project is registered. -/
  registered : Bool

namespace ServiceSession

variable {σ : Type} {index : Nat} {name : String} {service : Service σ}

/-- The session that begins when a service is opened in a stored state. -/
def opened (workspace : Workspace σ) (tree : FileTree) (state : Option EnhancementState) :
    ServiceSession σ :=
  ⟨workspace, tree, (state.getD ⟨false⟩).enabled, false, false⟩

/-- One thing done with the service of an index, which has a name in the registry. -/
inductive Step (index : Nat) (name : String) : ServiceSession σ → ServiceSession σ → Prop
  /-- The service is switched, and its switch is stored. -/
  | set {session : ServiceSession σ} {service : Service σ} {workspace : Workspace σ}
      {tree : FileTree} (found : session.workspace.services[index]? = some service) (on : Bool)
      (done : session.workspace.setEnabled session.tree service on = (workspace, tree, .ok ())) :
      Step index name session { session with workspace, tree, choice := on, forced := false }
  /-- The service is registered. -/
  | register {session : ServiceSession σ} {service : Service σ}
      (found : session.workspace.services[index]? = some service) :
      Step index name session
        { session with workspace := session.workspace.register service name, registered := true }
  /-- The registered project is switched. -/
  | select {session : ServiceSession σ} (registered : session.registered = true) (on : Bool) :
      Step index name session
        { session with
          workspace := session.workspace.select name on, choice := on, forced := false }
  /-- A compilation ends. -/
  | finish (session : ServiceSession σ) (compilation : Compilation) {build : BuildState}
      (files : build.tree = session.tree) :
      Step index name session
        { session with
          workspace :=
            (Workspace.compilationFinished compilation index (session.workspace, build)).1.1
          tree :=
            (Workspace.compilationFinished compilation index (session.workspace, build)).1.2.tree }
  /-- The registry closes the project, if it is registered. -/
  | closeNamed (session : ServiceSession σ) :
      Step index name session
        { session with
          workspace := (session.workspace.closeNamed name).2
          forced := session.forced || session.registered
          registered := false }

/-- Any number of steps. -/
abbrev Runs (index : Nat) (name : String) : ServiceSession σ → ServiceSession σ → Prop :=
  Relation.ReflTransGen (Step index name)

/-! ## What a session has to do with its service -/

/-- A service is found at an index, whatever its listener did meanwhile. -/
def IsAt (workspace : Workspace σ) (index : Nat) (service : Service σ) : Prop :=
  ∃ now, workspace.services[index]? = some now ∧ now.bus = service.bus ∧
    now.component = service.component ∧ now.settings = service.settings

/-- Only enhancement listeners are registered on a bus. -/
def IsQuiet (bus : EventBus BusListener) : Prop :=
  ∀ registration ∈ bus.registrations, ∃ owner, registration.2 = .enhancement owner

/-- The component of the service follows what was done. -/
structure Tracks (index : Nat) (name : String) (service : Service σ)
    (session : ServiceSession σ) : Prop where
  isAt : IsAt session.workspace index service
  component : ∃ component owner,
    session.workspace.hub.components[service.component]? = some component ∧
      component.listener = .enhancement owner
  quiet : IsQuiet (session.workspace.hub.bus service.bus)
  enabled : session.workspace.hub.isEnabled service.component =
    (session.choice && !session.forced)
  registry : session.workspace.hub.component? name =
    if session.registered then some service.component else none

/-! ## Opening -/

/-- The service that is added to a workspace. -/
def added (before : Workspace σ) (root : FilePath) (config : ProjectConfig)
    (factory : TransformerFactory σ) (settings : SettingsStore) : Service σ where
  root
  config
  bus := before.hub.buses.length
  component := before.hub.components.length
  listener := .new factory config.enhance
  settings

/-- The hub with a bus and a component for a service to be added. -/
def extended (before : Workspace σ) : Hub BusListener :=
  (before.hub.addBus.2.addComponent before.hub.buses.length
    (.enhancement before.services.length)).2

theorem components_extended (before : Workspace σ) :
    (extended before).components[before.hub.components.length]? =
      some ⟨before.hub.buses.length, .enhancement before.services.length, none⟩ := by
  simp [extended, Hub.addBus, Hub.addComponent]

section Opening

variable (before : Workspace σ) (root : FilePath) (config : ProjectConfig)
  (factory : TransformerFactory σ) (settings : SettingsStore) (state : EnhancementState)

theorem addService_eq :
    before.addService root config factory settings state =
      (before.services.length,
        { before with
          hub := (extended before).switch before.hub.components.length state.enabled
          services := before.services ++ [added before root config factory settings] }) := rfl

@[simp]
theorem index_addService :
    (before.addService root config factory settings state).1 = before.services.length := rfl

theorem services_addService :
    (before.addService root config factory settings state).2.services[before.services.length]? =
      some (added before root config factory settings) := by
  simp [addService_eq]

/-- A service that is added is as its state says. -/
theorem isEnabled_addService :
    (before.addService root config factory settings state).2.isEnabled
      (added before root config factory settings) = state.enabled :=
  Hub.isEnabled_switch_self (List.getElem?_eq_some_iff.mp (components_extended before)).1 _

theorem tracks_addService (unknown : before.hub.component? name = none) (tree : FileTree) :
    Tracks before.services.length name (added before root config factory settings)
      ⟨(before.addService root config factory settings state).2, tree, state.enabled, false,
        false⟩ := by
  have new := components_extended before
  obtain ⟨subscription, switched⟩ :=
    Hub.components_switch before.hub.components.length state.enabled new
  constructor
  · exact ⟨added before root config factory settings, by simp [addService_eq], rfl, rfl, rfl⟩
  · exact ⟨_, _, switched, rfl⟩
  · intro registration listed
    rcases Hub.mem_registrations_switch listed with old | ⟨component, found, -, same⟩
    · have empty : (extended before).bus before.hub.buses.length = .empty :=
        (Hub.bus_addBus before.hub _).trans (Hub.bus_of_le (Nat.le_refl _))
      change registration ∈ ((extended before).bus before.hub.buses.length).registrations at old
      rw [empty] at old
      cases old
    · obtain rfl := Option.some.inj (found.symm.trans new)
      exact ⟨_, same⟩
  · dsimp only
    rw [Bool.not_false, Bool.and_true]
    exact isEnabled_addService before root config factory settings state
  · rw [addService_eq, Hub.component?, Hub.registry_switch]
    exact unknown

end Opening

namespace Tracks

variable {session : ServiceSession σ}

/-- Switching the component keeps track, if what was done is noted. -/
theorem switch (tracks : Tracks index name service session) (tree : FileTree)
    (choice forced : Bool) :
    Tracks index name service
      { session with
        workspace := { session.workspace with
          hub := session.workspace.hub.switch service.component (choice && !forced) }
        tree, choice, forced } := by
  obtain ⟨component, owner, found, listener⟩ := tracks.component
  have inside := (List.getElem?_eq_some_iff.mp found).1
  obtain ⟨subscription, switched⟩ :=
    Hub.components_switch service.component (choice && !forced) found
  refine ⟨tracks.isAt, ⟨_, owner, switched, listener⟩, fun registration listed => ?_,
    Hub.isEnabled_switch_self inside _, ?_⟩
  · rcases Hub.mem_registrations_switch listed with old | ⟨other, here, -, same⟩
    · exact tracks.quiet registration old
    · obtain rfl := Option.some.inj (here.symm.trans found)
      exact ⟨owner, same.trans listener⟩
  · rw [Hub.component?, Hub.registry_switch]
    exact tracks.registry

theorem set (tracks : Tracks index name service session) {now : Service σ}
    {workspace : Workspace σ} {tree : FileTree}
    (found : session.workspace.services[index]? = some now) {on : Bool}
    (done : session.workspace.setEnabled session.tree now on = (workspace, tree, .ok ())) :
    Tracks index name service { session with workspace, tree, choice := on, forced := false } := by
  obtain ⟨same, there, -, component, -⟩ := tracks.isAt
  obtain rfl := Option.some.inj (there.symm.trans found)
  obtain ⟨rfl, -⟩ := Prod.mk.inj done
  have switched := tracks.switch tree on false
  rw [Bool.not_false, Bool.and_true, ← component] at switched
  exact component ▸ switched

theorem register (tracks : Tracks index name service session) {now : Service σ}
    (found : session.workspace.services[index]? = some now) :
    Tracks index name service
      { session with
        workspace := session.workspace.register now name, registered := true } where
  isAt := tracks.isAt
  component := tracks.component
  quiet := tracks.quiet
  enabled := tracks.enabled
  registry := by
    obtain ⟨same, there, -, component, -⟩ := tracks.isAt
    obtain rfl := Option.some.inj (there.symm.trans found)
    simp [Workspace.register, Hub.component?, Hub.register, component]

theorem select (tracks : Tracks index name service session)
    (registered : session.registered = true) (on : Bool) :
    Tracks index name service
      { session with
        workspace := session.workspace.select name on, choice := on, forced := false } := by
  have known := tracks.registry
  rw [if_pos registered] at known
  have switched := tracks.switch session.tree on false
  rw [Bool.not_false, Bool.and_true] at switched
  simpa only [Workspace.select, Hub.select, known] using switched

/-- A name is forgotten. -/
theorem forget (tracks : Tracks index name service session) :
    Tracks index name service
      { session with
        workspace := { session.workspace with
          hub := { session.workspace.hub with
            registry := session.workspace.hub.registry.erase name } }
        registered := false } where
  isAt := tracks.isAt
  component := tracks.component
  quiet := tracks.quiet
  enabled := tracks.enabled
  registry := by simp [Hub.component?]

theorem closeNamed (tracks : Tracks index name service session) :
    Tracks index name service
      { session with
        workspace := (session.workspace.closeNamed name).2
        forced := session.forced || session.registered
        registered := false } := by
  have known := tracks.registry
  cases registered : session.registered with
  | false =>
      rw [registered, if_neg Bool.false_ne_true] at known
      rw [Bool.or_false, Workspace.closeNamed, Hub.close, known]
      exact ⟨tracks.isAt, tracks.component, tracks.quiet, tracks.enabled, known⟩
  | true =>
      rw [registered, if_pos rfl] at known
      have switched := tracks.forget.switch session.tree session.choice true
      rw [Bool.not_true, Bool.and_false] at switched
      rw [Bool.or_true, Workspace.closeNamed, Hub.close, known]
      exact switched

theorem of_same_hub (tracks : Tracks index name service session) {workspace : Workspace σ}
    (hub : workspace.hub = session.workspace.hub) (isAt : IsAt workspace index service)
    (tree : FileTree) : Tracks index name service { session with workspace, tree } := by
  refine ⟨isAt, ?_, ?_, ?_, ?_⟩ <;> dsimp only <;> rw [hub]
  · exact tracks.component
  · exact tracks.quiet
  · exact tracks.enabled
  · exact tracks.registry

end Tracks

/-! ## Compilations -/

/-- A batch changes the listener of its service, and no switch. -/
theorem enhance_frame (compilation : Compilation) (owner : Nat) (running : Workspace.Running σ) :
    (Workspace.enhance compilation owner running).1.1.hub = running.1.hub ∧
      (IsAt running.1 index service →
        IsAt (Workspace.enhance compilation owner running).1.1 index service) := by
  obtain ⟨workspace, build⟩ := running
  rw [Workspace.enhance]
  dsimp only
  split
  · exact ⟨rfl, id⟩
  · next batch_owner found =>
      refine ⟨rfl, ?_⟩
      rintro ⟨now, there, same⟩
      by_cases own : index = owner
      · subst own
        obtain rfl := Option.some.inj (there.symm.trans found)
        exact ⟨_, List.getElem?_set_self (List.getElem?_eq_some_iff.mp found).1, same⟩
      · exact ⟨now, by simpa [List.getElem?_set_ne (Ne.symm own)] using there, same⟩

/-- Listeners of a quiet bus switch nothing when they are notified. -/
theorem deliver_frame (compilation : Compilation) (now : Service σ) {bus : EventBus BusListener}
    (quiet : IsQuiet bus) (running : Workspace.Running σ) :
    (bus.deliver (Workspace.notify compilation now) running).1.hub = running.1.hub ∧
      (IsAt running.1 index service →
        IsAt (bus.deliver (Workspace.notify compilation now) running).1 index service) := by
  obtain ⟨registrations, nextId, increasing, below⟩ := bus
  simp only [IsQuiet, EventBus.deliver] at quiet ⊢
  -- The induction is on the registrations alone: their numbers play no part in a delivery.
  clear increasing below
  induction registrations generalizing running with
  | nil => exact ⟨rfl, id⟩
  | cons registration rest hypothesis =>
      obtain ⟨owner, listener⟩ := quiet registration List.mem_cons_self
      have others : ∀ registration ∈ rest, ∃ owner, registration.2 = .enhancement owner :=
        fun registration listed => quiet registration (List.mem_cons_of_mem _ listed)
      have first : Workspace.notify compilation now ⟨registration.1⟩ registration.2 running =
          (Workspace.enhance compilation owner running).1 := by
        rw [listener]
        rfl
      obtain ⟨hub_first, isAt_first⟩ := enhance_frame compilation owner running
      rw [List.foldl_cons, first]
      obtain ⟨hub_rest, isAt_rest⟩ :=
        hypothesis (Workspace.enhance compilation owner running).1 others
      exact ⟨hub_rest.trans hub_first, isAt_rest ∘ isAt_first⟩

theorem Tracks.finish {session : ServiceSession σ} (tracks : Tracks index name service session)
    (compilation : Compilation) (build : BuildState) (tree : FileTree) :
    Tracks index name service
      { session with
        workspace :=
          (Workspace.compilationFinished compilation index (session.workspace, build)).1.1
        tree } := by
  obtain ⟨now, there, bus, -⟩ := tracks.isAt
  have quiet := tracks.quiet
  rw [← bus] at quiet
  obtain ⟨hub, isAt⟩ := deliver_frame compilation now quiet (session.workspace, build)
  have notified : (Workspace.compilationFinished compilation index (session.workspace, build)).1 =
      (session.workspace.hub.bus now.bus).deliver (Workspace.notify compilation now)
        (session.workspace, build) := by
    simp only [Workspace.compilationFinished, there]
    split <;> rfl
  rw [notified]
  exact tracks.of_same_hub hub (isAt tracks.isAt) tree

theorem Step.tracks {before after : ServiceSession σ} (step : Step index name before after)
    (tracks : Tracks index name service before) : Tracks index name service after := by
  cases step with
  | set found on done => exact tracks.set found done
  | register found => exact tracks.register found
  | select registered on => exact tracks.select registered on
  | finish compilation => exact tracks.finish compilation _ _
  | closeNamed => exact tracks.closeNamed

theorem Runs.tracks {before after : ServiceSession σ} (runs : Runs index name before after)
    (tracks : Tracks index name service before) : Tracks index name service after := by
  induction runs with
  | refl => exact tracks
  | tail _ step hypothesis => exact step.tracks hypothesis

/-! ## Closing -/

/-- Whether a project is enabled right after it is opened. -/
def startsEnabled (workspace : Workspace σ) (tree : FileTree) (root : FilePath)
    (config : ProjectConfig) (factory : TransformerFactory σ) : Except ServiceError Bool :=
  match workspace.openWith tree root config factory with
  | .error error => .error error
  | .ok (index, workspace) => .ok (workspace.services[index]?.any workspace.isEnabled)

theorem openWith_eq {tree : FileTree} {root : FilePath} {config : ProjectConfig}
    {state : Option EnhancementState}
    (loaded : (SettingsStore.mk (config.settingsFile root)).load tree = .ok state)
    (workspace : Workspace σ) (factory : TransformerFactory σ) :
    workspace.openWith tree root config factory =
      .ok (workspace.addService root config factory ⟨config.settingsFile root⟩
        (state.getD ⟨false⟩)) := by
  unfold Workspace.openWith
  dsimp only
  split
  · next failed =>
      rw [loaded] at failed
      cases failed
  · next found =>
      rw [loaded] at found
      obtain rfl := Except.ok.inj found
      rfl

theorem startsEnabled_eq {tree : FileTree} {root : FilePath} {config : ProjectConfig}
    {state : Option EnhancementState}
    (loaded : (SettingsStore.mk (config.settingsFile root)).load tree = .ok state)
    (workspace : Workspace σ) (factory : TransformerFactory σ) :
    startsEnabled workspace tree root config factory = .ok (state.getD ⟨false⟩).enabled := by
  unfold startsEnabled
  split
  · next failed =>
      rw [openWith_eq loaded] at failed
      cases failed
  · next opens =>
      rw [openWith_eq loaded] at opens
      obtain ⟨rfl, rfl⟩ := Prod.ext_iff.mp (Except.ok.inj opens)
      rw [index_addService, services_addService, Option.any_some, isEnabled_addService]

/-- A service that is closed and opened again is what its component was. -/
theorem startsEnabled_of_close {workspace closed : Workspace σ} {tree after : FileTree}
    {root : FilePath} {config : ProjectConfig}
    (located : service.settings = ⟨config.settingsFile root⟩)
    (closes : workspace.close tree service = (closed, after, .ok ()))
    (again : Workspace σ) (factory : TransformerFactory σ) :
    startsEnabled again after root config factory = .ok (workspace.isEnabled service) := by
  have saved : service.settings.save tree ⟨workspace.isEnabled service⟩ = (after, .ok ()) := by
    obtain ⟨-, stored⟩ := Prod.mk.inj closes
    rw [Workspace.save] at stored
    split at stored
    · next done =>
        obtain ⟨rfl, -⟩ := Prod.mk.inj stored
        exact done
    · cases (Prod.mk.inj stored).2
  have loaded := SettingsStore.loads_saved saved
  rw [located] at loaded
  exact startsEnabled_eq loaded again factory

/-- A service that is opened again is what the user chose last, unless the registry closed the
project after that: then it is off. -/
theorem startsEnabled_of_runs {before start closed : Workspace σ} {tree after : FileTree}
    {root : FilePath} {config : ProjectConfig} {factory : TransformerFactory σ}
    {state : Option EnhancementState} {session : ServiceSession σ}
    (unknown : before.hub.component? name = none)
    (stored : (SettingsStore.mk (config.settingsFile root)).load tree = .ok state)
    (opens : before.openWith tree root config factory = .ok (index, start))
    (runs : Runs index name (opened start tree state) session)
    (found : session.workspace.services[index]? = some service)
    (closes : session.workspace.close session.tree service = (closed, after, .ok ()))
    (again : Workspace σ) (other_factory : TransformerFactory σ) :
    startsEnabled again after root config other_factory =
      .ok (session.choice && !session.forced) := by
  rw [openWith_eq stored] at opens
  obtain ⟨rfl, rfl⟩ := Prod.mk.inj (Except.ok.inj opens)
  have tracks := runs.tracks
    (tracks_addService before root config factory ⟨config.settingsFile root⟩ _ unknown tree)
  obtain ⟨now, there, -, component, settings⟩ := tracks.isAt
  obtain rfl := Option.some.inj (there.symm.trans found)
  rw [startsEnabled_of_close settings closes again other_factory, Workspace.isEnabled,
    component]
  exact congrArg Except.ok tracks.enabled

/-- A factory that creates no transformer. -/
def refusing : TransformerFactory Unit := ⟨fun state _ _ => (state, .panicked "refused")⟩

/-- A project with its settings beside it. -/
def besideConfig : ProjectConfig := { ProjectConfig.standard with settingsPath := ⟨"s.json"⟩ }

theorem save_eq {workspace : Workspace σ} {tree after : FileTree}
    (saved : service.settings.save tree ⟨workspace.isEnabled service⟩ = (after, .ok ())) :
    workspace.save tree service = (after, .ok ()) := by
  rw [Workspace.save, saved]

/-- The user switches a service on, the registry closes the project, and then the service is
closed. -/
theorem startsEnabled_of_closed_first :
    ∃ (start closed : Workspace Unit) (session : ServiceSession Unit) (service : Service Unit)
      (after : FileTree),
      (Workspace.empty ()).openWith (SettingsStore.sharedFiles []) ⟨"/work"⟩ besideConfig refusing =
          .ok (0, start) ∧
        Runs 0 "shop" (opened start (SettingsStore.sharedFiles []) none) session ∧
        session.workspace.services[0]? = some service ∧
        session.workspace.close session.tree service = (closed, after, .ok ()) ∧
        session.choice = true ∧
        startsEnabled closed after ⟨"/work"⟩ besideConfig refusing = .ok false := by
  have regular : SettingsStore.IsRegular [] := ⟨.nil, nofun⟩
  have stored : (SettingsStore.mk (besideConfig.settingsFile ⟨"/work"⟩)).load
      (SettingsStore.sharedFiles []) = .ok none := by
    have readable := SettingsStore.readDocument_sharedFiles regular
    show SettingsStore.sharedStore.load _ = _
    simp [SettingsStore.load, readable]
  have opens := openWith_eq stored (Workspace.empty ()) refusing
  have on := SettingsStore.save_sharedFiles regular ⟨true⟩
  have off := SettingsStore.save_sharedFiles (regular.withState ⟨true⟩) ⟨false⟩
  let service :=
    added (Workspace.empty ()) ⟨"/work"⟩ besideConfig refusing SettingsStore.sharedStore
  let start := ((Workspace.empty ()).addService ⟨"/work"⟩ besideConfig refusing
    SettingsStore.sharedStore ⟨false⟩).2
  let enabled : Workspace Unit := { start with hub := start.hub.switch service.component true }
  have found : start.services[0]? = some service := rfl
  have set : start.setEnabled (SettingsStore.sharedFiles []) service true =
      (enabled, SettingsStore.sharedFiles (SettingsStore.withState ⟨true⟩ []), .ok ()) :=
    congrArg (Prod.mk _) (save_eq on)
  have runs : Runs 0 "shop" (opened start (SettingsStore.sharedFiles []) none) _ :=
    .tail (.tail (.tail .refl (.set found true set)) (.register found)) (.closeNamed _)
  let disabled := ((enabled.register service "shop").closeNamed "shop").2
  have closes : disabled.close (SettingsStore.sharedFiles (SettingsStore.withState ⟨true⟩ []))
      service = ({ disabled with hub := disabled.hub.switch service.component false }, _, .ok ()) :=
    congrArg (Prod.mk _) (save_eq off)
  refine ⟨start, _, _, service, _, opens, runs, found, closes, rfl, ?_⟩
  exact startsEnabled_of_runs rfl stored opens runs found closes _ refusing

end ServiceSession
end ClassEnhancement
