import ClassEnhancement.Proofs.Service.Registration

/-!
# Compilations that end

A guest on the bus of a service may do anything with the bus and the switch of the service when it
is notified, but it runs no batch.  Whatever guests do, and whatever was done with the services
before, a compilation that ends runs one batch of the service if the service was enabled when the
compilation ended, and its report is the answer; otherwise it runs none.
-/

namespace ClassEnhancement
namespace Workspace

variable {σ : Type} {index : Nat} {service : Service σ}

/-! ## Guests -/

/-- Something that a guest does. -/
inductive Deed where
  /-- Registers a guest. -/
  | subscribe (actions : List GuestAction)
  /-- Gives up the registration of a guest; guests have handles of no other registrations. -/
  | giveUp (subscription : Subscription)
  /-- Switches the service. -/
  | switch (on : Bool)

/-- What guests do when they are notified: it depends on their registration, and on everything in
the workspace and in the build. -/
def Conduct (σ : Type) : Type := Subscription → List GuestAction → Running σ → List Deed

/-- Whether a registration on a bus is that of a guest. -/
def isGuest (bus : EventBus BusListener) (subscription : Subscription) : Bool :=
  bus.registrations.any fun registration =>
    decide (registration.1 = subscription.id) && !Hub.isEnhancement registration

/-- The hub after a deed of a guest on the bus of a service. -/
def perform (service : Service σ) (hub : Hub BusListener) : Deed → Hub BusListener
  | .subscribe actions => (hub.subscribe service.bus (.guest actions)).2
  | .giveUp subscription =>
    if isGuest (hub.bus service.bus) subscription then (hub.unsubscribe service.bus subscription).2
    else hub
  | .switch on => hub.switch service.component on

/-- Notifies one listener, where guests are of some conduct. -/
def attend (conduct : Conduct σ) (compilation : Compilation) (service : Service σ)
    (own : Subscription) : BusListener → Running σ → Running σ
  | .enhancement index, running => (enhance compilation index running).1
  | .guest actions, running =>
    ({ running.1 with
        hub := (conduct own actions running).foldl (perform service) running.1.hub }, running.2)

/-- Notifies the listeners of a service that a compilation ended, where guests are of some
conduct. -/
def finishedAmong (conduct : Conduct σ) (compilation : Compilation) (index : Nat)
    (running : Running σ) : Running σ × Option BatchReport :=
  let (workspace, _) := running
  match workspace.services[index]? with
  | none => (running, none)
  | some service =>
    let after :=
      (workspace.hub.bus service.bus).deliver (attend conduct compilation service) running
    if workspace.isEnabled service then
      (after, after.1.services[index]?.bind fun service => service.listener.lastReport)
    else (after, none)

/-- The deed of an action that a guest was registered with. -/
def deedOf (own : Subscription) : GuestAction → Deed
  | .subscribe actions => .subscribe actions
  | .leave => .giveUp own
  | .switch on => .switch on

/-- Guests that do what they were registered with. -/
def asRegistered : Conduct σ := fun own actions _ => actions.map (deedOf own)

/-! ## Runs -/

/-- One thing done with the services of a workspace. -/
inductive Step : Workspace σ → Workspace σ → Prop
  /-- A service is opened. -/
  | opened (workspace : Workspace σ) (root : FilePath) (config : ProjectConfig)
      (factory : TransformerFactory σ) (settings : SettingsStore) (state : EnhancementState) :
      Step workspace (workspace.addService root config factory settings state).2
  /-- A service is switched, whether or not its switch can be stored. -/
  | set {workspace : Workspace σ} {index : Nat} {service : Service σ}
      (found : workspace.services[index]? = some service) (tree : FileTree) (on : Bool) :
      Step workspace (workspace.setEnabled tree service on).1
  /-- A service is closed. -/
  | closed {workspace : Workspace σ} {index : Nat} {service : Service σ}
      (found : workspace.services[index]? = some service) (tree : FileTree) :
      Step workspace (workspace.close tree service).1
  /-- A service is registered. -/
  | register {workspace : Workspace σ} {index : Nat} {service : Service σ}
      (found : workspace.services[index]? = some service) (name : String) :
      Step workspace (workspace.register service name)
  /-- The registry closes a project. -/
  | closeNamed (workspace : Workspace σ) (name : String) :
      Step workspace (workspace.closeNamed name).2
  /-- A registered project is switched. -/
  | select (workspace : Workspace σ) (name : String) (on : Bool) :
      Step workspace (workspace.select name on)
  /-- A guest does something, or someone does it for a guest. -/
  | deed {workspace : Workspace σ} {index : Nat} {service : Service σ}
      (found : workspace.services[index]? = some service) (deed : Deed) :
      Step workspace { workspace with hub := perform service workspace.hub deed }
  /-- A batch is run, whether or not the service is enabled. -/
  | enhance (workspace : Workspace σ) (compilation : Compilation) (index : Nat)
      (build : BuildState) :
      Step workspace (enhance compilation index (workspace, build)).1.1
  /-- A compilation ends. -/
  | finish (workspace : Workspace σ) (conduct : Conduct σ) (compilation : Compilation)
      (index : Nat) (build : BuildState) :
      Step workspace (finishedAmong conduct compilation index (workspace, build)).1.1

/-- Any number of steps. -/
abbrev Reaches : Workspace σ → Workspace σ → Prop := Relation.ReflTransGen Step

/-- Every service has a bus and a component of its own. -/
structure IsSound (workspace : Workspace σ) : Prop where
  /-- All components are on buses that there are. -/
  placed : workspace.hub.IsPlaced
  /-- The hub serves every service. -/
  serves : ∀ (index : Nat) (service : Service σ), workspace.services[index]? = some service →
    workspace.hub.Serves index service.bus service.component

/-! ## Deeds -/

theorem exists_of_isGuest {bus : EventBus BusListener} {subscription : Subscription}
    (guest : isGuest bus subscription = true) :
    ∃ actions, (subscription.id, BusListener.guest actions) ∈ bus.registrations := by
  obtain ⟨⟨id, listener⟩, listed, same⟩ := List.any_eq_true.mp guest
  rw [Bool.and_eq_true, decide_eq_true_eq] at same
  obtain ⟨rfl, guest⟩ := same
  cases listener with
  | enhancement owner => cases guest
  | guest actions => exact ⟨actions, listed⟩

theorem isGuest_of_mem {bus : EventBus BusListener} {subscription : Subscription}
    {actions : List GuestAction}
    (listed : (subscription.id, BusListener.guest actions) ∈ bus.registrations) :
    isGuest bus subscription = true :=
  List.any_eq_true.mpr ⟨_, listed, by simp [Hub.isEnhancement]⟩

/-- Deeds of guests keep every service served. -/
theorem serves_perform {hub : Hub BusListener} {bus component : Nat}
    (serves : hub.Serves index bus component) (service : Service σ) (deed : Deed) :
    (perform service hub deed).Serves index bus component := by
  cases deed with
  | subscribe actions => exact serves.subscribe_guest service.bus actions
  | giveUp subscription =>
      rw [perform]
      split
      · next guest =>
          obtain ⟨actions, listed⟩ := exists_of_isGuest guest
          exact serves.unsubscribe_guest listed
      · exact serves
  | switch on => exact serves.switch service.component on

theorem isPlaced_perform {hub : Hub BusListener} (placed : hub.IsPlaced) (service : Service σ)
    (deed : Deed) : (perform service hub deed).IsPlaced := by
  cases deed with
  | subscribe actions => simpa [perform, Hub.IsPlaced, Hub.subscribe, Hub.setBus] using placed
  | giveUp subscription =>
      rw [perform]
      split
      · simpa [Hub.IsPlaced, Hub.unsubscribe, Hub.setBus] using placed
      · exact placed
  | switch on => exact placed.switch service.component on

theorem kept_deeds {hub : Hub BusListener} (placed : hub.IsPlaced) (service : Service σ)
    (deeds : List Deed) :
    (deeds.foldl (perform service) hub).IsPlaced ∧
      ∀ index bus component, hub.Serves index bus component →
        (deeds.foldl (perform service) hub).Serves index bus component := by
  induction deeds generalizing hub with
  | nil => exact ⟨placed, fun _ _ _ serves => serves⟩
  | cons deed rest hypothesis =>
      obtain ⟨placed_rest, serves_rest⟩ := hypothesis (isPlaced_perform placed service deed)
      exact ⟨placed_rest, fun index bus component serves =>
        serves_rest index bus component (serves_perform serves service deed)⟩

/-- Numbers on a bus stay with their registrations, whatever guests do. -/
theorem later_perform (hub : Hub BusListener) (service : Service σ) (deed : Deed) (bus : Nat) :
    (hub.bus bus).Later ((perform service hub deed).bus bus) := by
  cases deed with
  | subscribe actions => exact Hub.later_setBus (.subscribe _ _) bus
  | giveUp subscription =>
      rw [perform]
      split
      · exact Hub.later_setBus (.unsubscribe _ _) bus
      · exact .refl _
  | switch on => exact Hub.later_switch hub service.component on bus

/-! ## Notifications -/

/-- Guests that are notified change the hub alone. -/
theorem attend_guests (conduct : Conduct σ) (compilation : Compilation) (service : Service σ)
    {registrations : List (Nat × BusListener)}
    (guests : registrations.filter Hub.isEnhancement = []) (running : Running σ) :
    ∃ deeds : List Deed, registrations.foldl (fun running registration =>
        attend conduct compilation service ⟨registration.1⟩ registration.2 running) running =
      ({ running.1 with hub := deeds.foldl (perform service) running.1.hub }, running.2) := by
  induction registrations generalizing running with
  | nil => exact ⟨[], rfl⟩
  | cons registration rest hypothesis =>
      obtain ⟨id, listener⟩ := registration
      cases listener with
      | enhancement owner => simp [Hub.isEnhancement] at guests
      | guest actions =>
          have others : rest.filter Hub.isEnhancement = [] := by
            simpa [Hub.isEnhancement] using guests
          obtain ⟨deeds, done⟩ := hypothesis others
            (attend conduct compilation service ⟨id⟩ (.guest actions) running)
          refine ⟨conduct ⟨id⟩ actions running ++ deeds, ?_⟩
          rw [List.foldl_cons, done, List.foldl_append]
          rfl

theorem enhance_eq (compilation : Compilation) {running : Running σ}
    (found : running.1.services[index]? = some service) :
    enhance compilation index running =
      let result := (service.listener.batch compilation.context compilation.classes).run running.2
        running.1.agent
      (({ running.1 with
          services := running.1.services.set index
            { service with listener := { service.listener with lastReport := some result.report } }
          agent := result.agent }, result.build), some result.report) := by
  obtain ⟨workspace, build⟩ := running
  dsimp only at found
  simp only [enhance, found]
  rfl

/-- What a compilation that ends comes to for a service. -/
structure Finishes (compilation : Compilation) (index : Nat) (service : Service σ)
    (before : Running σ) (finished : Running σ × Option BatchReport) : Prop where
  /-- If the service was enabled, one batch is run, over the compilation.  Its report is the answer
  and the last report of the service; guests change the hub alone. -/
  enabled : before.1.isEnabled service = true →
    (∃ id, before.1.hub.batchesOn service.bus = [(id, .enhancement index)]) ∧
    ∃ deeds : List Deed, finished =
      let result := (service.listener.batch compilation.context compilation.classes).run before.2
        before.1.agent
      (({ hub := deeds.foldl (perform service) before.1.hub
          services := before.1.services.set index
            { service with listener := { service.listener with lastReport := some result.report } }
          agent := result.agent }, result.build), some result.report)
  /-- If the service was disabled, no batch is run, and there is no answer; guests change the hub
  alone. -/
  disabled : before.1.isEnabled service = false →
    before.1.hub.batchesOn service.bus = [] ∧
    ∃ deeds : List Deed, finished =
      (({ before.1 with hub := deeds.foldl (perform service) before.1.hub }, before.2), none)

/-- A compilation ends among guests of any conduct. -/
theorem finishes_of_serves {before : Running σ}
    (serves : before.1.hub.Serves index service.bus service.component)
    (found : before.1.services[index]? = some service) (conduct : Conduct σ)
    (compilation : Compilation) :
    Finishes compilation index service before
      (finishedAmong conduct compilation index before) := by
  constructor
  · intro enabled
    obtain ⟨id, front, back, split, guests_before, guests_after⟩ :=
      serves.registrations_of_enabled enabled
    refine ⟨⟨id, ?_⟩, ?_⟩
    · rw [Hub.batchesOn, split, List.filter_append, guests_before,
        List.filter_cons_of_pos (by rfl), guests_after, List.nil_append]
    · obtain ⟨early, done_before⟩ :=
        attend_guests conduct compilation service guests_before before
      -- The batch finds the services and the build as they were: guests changed the hub alone.
      let ready : Running σ :=
        ({ before.1 with hub := early.foldl (perform service) before.1.hub }, before.2)
      have batch := enhance_eq compilation (show ready.1.services[index]? = some service from found)
      obtain ⟨late, done_after⟩ := attend_guests conduct compilation service guests_after
        (enhance compilation index ready).1
      refine ⟨early ++ late, ?_⟩
      have inside := (List.getElem?_eq_some_iff.mp found).1
      have delivered : (before.1.hub.bus service.bus).deliver
          (attend conduct compilation service) before =
            ({ (enhance compilation index ready).1.1 with
                hub := late.foldl (perform service) (enhance compilation index ready).1.1.hub },
              (enhance compilation index ready).1.2) := by
        rw [EventBus.deliver, split, List.foldl_append, done_before, List.foldl_cons]
        exact done_after
      simp only [finishedAmong, found, enabled, if_true, delivered, batch, List.foldl_append]
      simp [ready, inside]
  · intro disabled
    have guests := serves.batchesOn_of_disabled disabled
    obtain ⟨deeds, done⟩ := attend_guests conduct compilation service guests before
    refine ⟨guests, deeds, ?_⟩
    simp only [finishedAmong, found, disabled]
    rw [EventBus.deliver, done]
    rfl

/-! ## Guests that do what they were registered with -/

/-- While a guest is notified, its actions are its deeds. -/
theorem act_eq_perform {service : Service σ} {hub : Hub BusListener}
    {snapshot : EventBus BusListener} {own : Subscription} {actions : List GuestAction}
    (listed : (own.id, .guest actions) ∈ snapshot.registrations)
    (later : snapshot.Later (hub.bus service.bus)) (action : GuestAction) :
    act service own hub action = perform service hub (deedOf own action) := by
  cases action with
  | subscribe others => rfl
  | switch on => rfl
  | leave =>
      rw [act, deedOf, perform]
      split
      · rfl
      · next gone =>
          refine Hub.unsubscribe_of_absent fun registration registered same => gone ?_
          -- The number of the guest still names the guest, or nothing.
          have small : registration.1 < snapshot.nextId := same ▸ EventBus.id_lt_nextId listed
          have old := later.old registration registered small
          have guest := EventBus.eq_of_same_id old listed same
          exact isGuest_of_mem (guest ▸ registered)

theorem acts_eq_deeds {service : Service σ} {snapshot : EventBus BusListener}
    {own : Subscription} {registered : List GuestAction}
    (listed : (own.id, .guest registered) ∈ snapshot.registrations) (actions : List GuestAction)
    {hub : Hub BusListener} (later : snapshot.Later (hub.bus service.bus)) :
    actions.foldl (act service own) hub =
        (actions.map (deedOf own)).foldl (perform service) hub ∧
      snapshot.Later
        (((actions.map (deedOf own)).foldl (perform service) hub).bus service.bus) := by
  induction actions generalizing hub with
  | nil => exact ⟨rfl, later⟩
  | cons action rest hypothesis =>
      rw [List.foldl_cons, List.map_cons, List.foldl_cons, act_eq_perform listed later action]
      exact hypothesis (later.trans (later_perform hub service (deedOf own action) service.bus))

theorem hub_enhance (compilation : Compilation) (owner : Nat) (running : Running σ) :
    (enhance compilation owner running).1.1.hub = running.1.hub := by
  obtain ⟨workspace, build⟩ := running
  rw [enhance]
  dsimp only
  split <;> rfl

theorem deliver_eq_attend (compilation : Compilation) (service : Service σ)
    (snapshot : EventBus BusListener) {registrations : List (Nat × BusListener)}
    (listed : ∀ registration ∈ registrations, registration ∈ snapshot.registrations)
    {running : Running σ} (later : snapshot.Later (running.1.hub.bus service.bus)) :
    registrations.foldl (fun running registration =>
        notify compilation service ⟨registration.1⟩ registration.2 running) running =
      registrations.foldl (fun running registration =>
        attend asRegistered compilation service ⟨registration.1⟩ registration.2 running)
          running := by
  induction registrations generalizing running with
  | nil => rfl
  | cons registration rest hypothesis =>
      obtain ⟨id, listener⟩ := registration
      have others : ∀ registration ∈ rest, registration ∈ snapshot.registrations :=
        fun registration member => listed registration (List.mem_cons_of_mem _ member)
      rw [List.foldl_cons, List.foldl_cons]
      cases listener with
      | enhancement owner =>
          refine hypothesis others ?_
          dsimp only [notify]
          rwa [hub_enhance]
      | guest actions =>
          have present : ((Subscription.mk id).id, BusListener.guest actions) ∈
            snapshot.registrations := listed _ List.mem_cons_self
          obtain ⟨same, onwards⟩ := acts_eq_deeds present actions later
          have notified : notify compilation service ⟨id⟩ (.guest actions) running =
              attend asRegistered compilation service ⟨id⟩ (.guest actions) running := by
            obtain ⟨workspace, build⟩ := running
            simp only [notify, attend, asRegistered, same]
          rw [notified]
          exact hypothesis others onwards

/-- The program is the case of guests that do what they were registered with. -/
theorem compilationFinished_eq (compilation : Compilation) (index : Nat) (running : Running σ) :
    compilationFinished compilation index running =
      finishedAmong asRegistered compilation index running := by
  obtain ⟨workspace, build⟩ := running
  cases found : workspace.services[index]? with
  | none => simp only [compilationFinished, finishedAmong, found]
  | some service =>
      have delivered : (workspace.hub.bus service.bus).deliver (notify compilation service)
            (workspace, build) =
          (workspace.hub.bus service.bus).deliver (attend asRegistered compilation service)
            (workspace, build) :=
        deliver_eq_attend compilation service (workspace.hub.bus service.bus)
          (fun _ listed => listed) (.refl _)
      simp only [compilationFinished, finishedAmong, found, delivered]

/-! ## Any number of steps -/

/-- Services keep their buses and components. -/
def KeepsServices (before after : Workspace σ) : Prop :=
  ∀ (index : Nat) (now : Service σ), after.services[index]? = some now →
    ∃ old, before.services[index]? = some old ∧ old.bus = now.bus ∧ old.component = now.component

theorem keepsServices_of_eq {before after : Workspace σ} (same : after.services = before.services) :
    KeepsServices before after :=
  fun _ now found => ⟨now, same ▸ found, rfl, rfl⟩

theorem keepsServices_set {before after : Workspace σ}
    (found : before.services[index]? = some service) (listener : EnhancementListener σ)
    (same : after.services = before.services.set index { service with listener }) :
    KeepsServices before after := by
  intro other now there
  rw [same] at there
  by_cases own : index = other
  · subst own
    rw [List.getElem?_set_self (List.getElem?_eq_some_iff.mp found).1] at there
    obtain rfl := Option.some.inj there
    exact ⟨service, found, rfl, rfl⟩
  · rw [List.getElem?_set_ne own] at there
    exact ⟨now, there, rfl, rfl⟩

theorem isSound_empty (agent : σ) : (empty agent).IsSound := ⟨nofun, nofun⟩

namespace IsSound

variable {workspace after : Workspace σ}

theorem of_hub (sound : workspace.IsSound) (placed : after.hub.IsPlaced)
    (serves : ∀ index bus component, workspace.hub.Serves index bus component →
      after.hub.Serves index bus component)
    (keeps : KeepsServices workspace after) : after.IsSound where
  placed := placed
  serves index now found := by
    obtain ⟨old, there, bus, component⟩ := keeps index now found
    rw [← bus, ← component]
    exact serves index old.bus old.component (sound.serves index old there)

theorem deeds (sound : workspace.IsSound) (service : Service σ) (deeds : List Deed)
    (hub : after.hub = deeds.foldl (perform service) workspace.hub)
    (keeps : KeepsServices workspace after) : after.IsSound := by
  obtain ⟨placed, serves⟩ := kept_deeds sound.placed service deeds
  rw [← hub] at placed serves
  exact sound.of_hub placed serves keeps

theorem switch (sound : workspace.IsSound) (component : Nat) (on : Bool)
    (hub : after.hub = workspace.hub.switch component on)
    (keeps : KeepsServices workspace after) : after.IsSound := by
  refine sound.of_hub ?_ (fun index bus own serves => ?_) keeps
  · rw [hub]
    exact sound.placed.switch component on
  · rw [hub]
    exact serves.switch component on

/-- The registry plays no part. -/
theorem named (sound : workspace.IsSound) (registry : OrderedMap String Nat) :
    { workspace with hub := { workspace.hub with registry } }.IsSound :=
  sound.of_hub sound.placed (fun _ _ _ serves => ⟨serves.placed, serves.alone, serves.holds⟩)
    (keepsServices_of_eq rfl)

theorem opened (sound : workspace.IsSound) (root : FilePath) (config : ProjectConfig)
    (factory : TransformerFactory σ) (settings : SettingsStore) (state : EnhancementState) :
    (workspace.addService root config factory settings state).2.IsSound := by
  rw [ServiceSession.addService_eq]
  constructor
  · exact (sound.placed.withService workspace.services.length).switch _ _
  · intro index service found
    dsimp only at found ⊢
    by_cases old : index < workspace.services.length
    · rw [List.getElem?_append_left old] at found
      exact ((sound.serves index service found).withService _).switch _ _
    · rw [List.getElem?_append_right (Nat.le_of_not_lt old)] at found
      obtain ⟨inside, rfl⟩ := List.getElem?_eq_some_iff.mp found
      have last : index = workspace.services.length := by
        simp only [List.length_singleton] at inside
        omega
      rw [List.getElem_singleton, last]
      exact (Hub.serves_withService sound.placed _).switch _ _

/-- A batch changes the listener of its service alone. -/
theorem enhance (sound : workspace.IsSound) (compilation : Compilation) (index : Nat)
    (build : BuildState) : (enhance compilation index (workspace, build)).1.1.IsSound := by
  cases found : workspace.services[index]? with
  | none =>
      have same : Workspace.enhance compilation index (workspace, build) =
          ((workspace, build), none) := by
        simp only [Workspace.enhance, found]
      rw [same]
      exact sound
  | some service =>
      rw [enhance_eq compilation (show (workspace, build).1.services[index]? = some service
        from found)]
      exact sound.deeds service [] rfl (keepsServices_set found _ rfl)

theorem finish (sound : workspace.IsSound) (conduct : Conduct σ) (compilation : Compilation)
    (index : Nat) (build : BuildState) :
    (finishedAmong conduct compilation index (workspace, build)).1.1.IsSound := by
  cases found : workspace.services[index]? with
  | none =>
      have same : finishedAmong conduct compilation index (workspace, build) =
          ((workspace, build), none) := by
        simp only [finishedAmong, found]
      rw [same]
      exact sound
  | some service =>
      have finishes := finishes_of_serves
        (show (workspace, build).1.hub.Serves index service.bus service.component
          from sound.serves index service found) found conduct compilation
      cases enabled : workspace.isEnabled service with
      | true =>
          obtain ⟨-, deeds, finished⟩ := finishes.enabled enabled
          rw [finished]
          exact sound.deeds service deeds rfl (keepsServices_set found _ rfl)
      | false =>
          obtain ⟨-, deeds, finished⟩ := finishes.disabled enabled
          rw [finished]
          exact sound.deeds service deeds rfl (keepsServices_of_eq rfl)

end IsSound

theorem Step.isSound {before after : Workspace σ} (step : Step before after)
    (sound : before.IsSound) : after.IsSound := by
  cases step with
  | opened root config factory settings state =>
      exact sound.opened root config factory settings state
  | set found tree on => exact sound.switch _ on rfl (keepsServices_of_eq rfl)
  | closed found tree => exact sound.switch _ false rfl (keepsServices_of_eq rfl)
  | register found name => exact sound.named _
  | closeNamed name =>
      cases known : before.hub.component? name with
      | none => simpa [Workspace.closeNamed, Hub.close, known] using sound
      | some component =>
          refine (sound.named (before.hub.registry.erase name)).switch component false ?_
            (keepsServices_of_eq rfl)
          simp only [Workspace.closeNamed, Hub.close, known]
  | select name on =>
      cases known : before.hub.component? name with
      | none => simpa [Workspace.select, Hub.select, known] using sound
      | some component =>
          refine sound.switch component on ?_ (keepsServices_of_eq rfl)
          simp only [Workspace.select, Hub.select, known]
  | deed found deed => exact sound.deeds _ [deed] rfl (keepsServices_of_eq rfl)
  | enhance compilation index build => exact sound.enhance compilation index build
  | finish conduct compilation index build => exact sound.finish conduct compilation index build

theorem Reaches.isSound {agent : σ} {workspace : Workspace σ}
    (reaches : Reaches (empty agent) workspace) : workspace.IsSound := by
  induction reaches with
  | refl => exact isSound_empty agent
  | tail _ step hypothesis => exact step.isSound hypothesis

/-! ## Compilations after any run -/

/-- Whatever was done with the services before, and whatever guests do when they are notified, a
compilation that ends runs one batch of the service over that compilation and answers with its
report, if the service was enabled when the compilation ended; otherwise it runs none and changes no
file and no report. -/
theorem finishes_of_reaches {agent : σ} {workspace : Workspace σ}
    (reaches : Reaches (empty agent) workspace)
    (found : workspace.services[index]? = some service) (compilation : Compilation)
    (build : BuildState) :
    Finishes compilation index service (workspace, build)
        (compilationFinished compilation index (workspace, build)) ∧
      ∀ conduct : Conduct σ, Finishes compilation index service (workspace, build)
        (finishedAmong conduct compilation index (workspace, build)) := by
  have finishes : ∀ conduct : Conduct σ, Finishes compilation index service (workspace, build)
      (finishedAmong conduct compilation index (workspace, build)) :=
    fun conduct => finishes_of_serves (reaches.isSound.serves index service found) found conduct
      compilation
  rw [compilationFinished_eq]
  exact ⟨finishes asRegistered, finishes⟩

/-! ## A guest that switches the service on -/

/-- A workspace with one service, which is off. -/
def opened : Workspace Unit :=
  ((empty ()).addService ⟨"/work"⟩ ServiceSession.besideConfig ServiceSession.refusing
    ⟨⟨"/work/s.json"⟩⟩ ⟨false⟩).2

/-- The service. -/
def awaited : Service Unit :=
  ServiceSession.added (empty ()) ⟨"/work"⟩ ServiceSession.besideConfig ServiceSession.refusing
    ⟨⟨"/work/s.json"⟩⟩

/-- The workspace with a guest that switches the service on. -/
def awaiting : Workspace Unit :=
  { opened with hub := perform awaited opened.hub (.subscribe [.switch true]) }

/-- A compilation of no classes. -/
def nothingCompiled : Compilation := ⟨⟨⟨"work", ⟨"/work"⟩, [], .empty⟩, .plain⟩, .empty⟩

/-- A build without files. -/
def nothingBuilt : BuildState := .initial (.empty [])

/-- The first compilation is not answered, although the service is on when all listeners were
notified.  The second one is. -/
theorem finishes_of_reaches_awaiting :
    let first := compilationFinished nothingCompiled 0 (awaiting, nothingBuilt)
    let second := compilationFinished nothingCompiled 0 first.1
    Reaches (empty ()) awaiting ∧ first.2 = none ∧ first.1.2.messages = [] ∧
      first.1.1.isEnabled awaited = true ∧ second.2.isSome = true := by
  intro first second
  have reached : Reaches (empty ()) awaiting :=
    .tail (.tail .refl (.opened _ _ _ _ _ _))
      (.deed (show opened.services[0]? = some awaited from rfl) (.subscribe [.switch true]))
  have before : awaiting.services[0]? = some awaited := rfl
  have off : awaiting.isEnabled awaited = false := rfl
  obtain ⟨-, deeds, unanswered⟩ :=
    (finishes_of_reaches reached before nothingCompiled nothingBuilt).1.disabled off
  have onward : Reaches (empty ()) first.1.1 := by
    refine .tail reached ?_
    simp only [first, compilationFinished_eq]
    exact .finish awaiting asRegistered nothingCompiled 0 nothingBuilt
  have between : first.1.1.services[0]? = some awaited := rfl
  have on : first.1.1.isEnabled awaited = true := rfl
  obtain ⟨-, others, answered⟩ :=
    (finishes_of_reaches onward between nothingCompiled first.1.2).1.enabled on
  refine ⟨reached, ?_, ?_, on, ?_⟩
  · exact congrArg Prod.snd unanswered
  · exact congrArg (fun finished => finished.1.2.messages) unanswered
  · exact congrArg (fun finished => finished.2.isSome) answered

end Workspace
end ClassEnhancement
