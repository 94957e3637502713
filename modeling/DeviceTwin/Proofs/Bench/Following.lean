import DeviceTwin.Proofs.Bench.Mirroring
import DeviceTwin.Proofs.Bench.Notification

/-!
# Statuses follow deliveries

The changes of a remote, the statuses that a device shows, the events that it publishes and the
loads of its model are kept in four places.  `Device.Follows` says that they are in step: each
state that a device is told is a new one for it, becomes its status, is published once, and loads
the model if it is the connected one.  The main statement, `statuses_follow_deliveries`, says this
of every device after any run.

What a device is told is the state that its remote has when the device is started, and every change
from then on.  So what the device has shown does not depend on what the remote did before, with one
exception: an observer that stands before the device may fail in a change, and then the device
misses this one.
-/

namespace DeviceTwin

/-! ## One device -/

/-- The states that a device was told are the statuses that it has shown and published since it
showed a first one, and the loads of its model are those of a connected state. -/
structure Device.Follows (status : Status) (loads : Nat) (told : List Connection)
    (shown published : List Status) (d : Device) : Prop where
  shown_eq : shown = told.map Status.ofConnection
  published_eq : published = told.map Status.ofConnection
  alternating : (status :: shown).IsChain (· ≠ ·)
  current : (status :: shown).getLast? = some d.status
  loads_eq : d.model.loads = loads + told.count .connected

namespace Device

variable {d d' d'' : Device} {r : Remote} {states told : List Connection}
  {statuses shown published : List Status}

theorem follows_nil (d : Device) : Follows d.status d.model.loads [] [] [] d where
  shown_eq := rfl
  published_eq := rfl
  alternating := .singleton _
  current := rfl
  loads_eq := rfl

/-- A device is told a state only if that is a new one. -/
theorem Follows.cons {state : Connection} (hnew : d.status ≠ .ofConnection state)
    (hloaded : d.status = .connected ↔ d.model.loaded = true)
    (hstatus : d'.status = .ofConnection state)
    (hmodel : d'.model = (d.model.follow state).1)
    (h : Follows d'.status d'.model.loads told shown published d'') :
    Follows d.status d.model.loads (state :: told) (.ofConnection state :: shown)
      (.ofConnection state :: published) d'' where
  shown_eq := by rw [h.shown_eq, List.map_cons]
  published_eq := by rw [h.published_eq, List.map_cons]
  alternating := by
    have hchain := h.alternating
    rw [hstatus] at hchain
    exact List.isChain_cons_cons.2 ⟨hnew, hchain⟩
  current := by
    rw [List.getLast?_cons_cons, ← hstatus, h.current]
  loads_eq := by
    rw [h.loads_eq, hmodel, Model.loads_follow, List.count_cons]
    cases state with
    | disconnected => simp [Connection.isConnected]
    | connected =>
      have hempty : d.model.empty = true := by
        simpa [Model.empty] using fun hl => hnew (hloaded.2 hl)
      simp [Connection.isConnected, hempty]
      omega

theorem Follows.told_eq_nil (h : Follows .stopped 0 told shown published d)
    (hstatus : d.status = .stopped) : told = [] := by
  have hlast := h.current
  rw [hstatus, h.shown_eq] at hlast
  cases told using List.reverseRecOn with
  | nil => rfl
  | append_singleton told state =>
    rw [List.map_append, ← List.cons_append, List.map_singleton, List.getLast?_concat] at hlast
    exact absurd (Option.some.inj hlast) Status.ofConnection_ne_stopped

/-- The statuses that a device publishes are those that it comes to show. -/
theorem Step.statuses_eq (h : d.Step r states statuses d') :
    statuses = if d.status = d'.status then [] else [d'.status] := by
  cases h with
  | quiet => simp
  | told state _ _ hnew h => rw [h.status, if_neg hnew]
  | @started d' _ _ hnew h =>
    have hne : d.status ≠ d'.status := by
      rw [hnew, h.status]
      exact Status.ofConnection_ne_stopped.symm
    rw [← h.status, if_neg hne]

theorem Step.follows (h : d.Step r states statuses d')
    (hloaded : d.status = .connected ↔ d.model.loaded = true)
    (hrest : Follows d'.status d'.model.loads told shown published d'') :
    Follows d.status d.model.loads (states ++ told) (statuses ++ shown) (statuses ++ published)
      d'' := by
  cases h with
  | quiet => exact hrest
  | told state _ _ hnew h => exact hrest.cons hnew hloaded h.status h.model
  | started _ _ hstatus h =>
    have hnew : d.status ≠ .ofConnection r.state := by
      rw [hstatus]
      exact Status.ofConnection_ne_stopped.symm
    exact Follows.cons hnew hloaded h.status h.model hrest

/-- A started device keeps its place among the observers of its remote. -/
theorem Step.of_started (h : d.Step r states statuses d') (hs : d.started = true) :
    d'.started = true ∧ d'.subscription = d.subscription := by
  cases h with
  | quiet => exact ⟨hs, rfl⟩
  | told _ _ _ _ h => exact ⟨h.started.trans hs, h.subscription⟩
  | started _ hnot => simp [hs] at hnot

/-- A device is told the state of its remote when it is started. -/
theorem Step.of_unstarted (h : d.Step r states statuses d') (hs : d.started = false)
    (hs' : d'.started = true) : states = [r.state] ∧ d'.subscription = some r.nextObserver := by
  cases h with
  | quiet => simp [hs] at hs'
  | told _ _ _ _ h => simp [h.started, hs] at hs'
  | started => exact ⟨rfl, rfl⟩

end Device

namespace Bench

/-! ## What actions bring about -/

/-- The status that a device comes to show by an action, if it showed another one. -/
def shift? (b : Bench) (a : Action) (k : DeviceKey) : Option Status :=
  match b.site.device? k, (b.step a).1.site.device? k with
  | some d, some d' => if d.status = d'.status then none else some d'.status
  | _, _ => none

/-- What actions bring about one after the other, where each brings about one thing at most. -/
def gather {α : Type} (f : Bench → Action → Option α) (b : Bench) : List Action → List α
  | [] => []
  | a :: rest => (f b a).toList ++ gather f (b.step a).1 rest

/-- The statuses that a device comes to show one after the other. -/
def shifts (b : Bench) (actions : List Action) (k : DeviceKey) : List Status :=
  gather (·.shift? · k) b actions

/-- The states that a remote comes to have one after the other. -/
def changes (b : Bench) (actions : List Action) (key : RemoteKey) : List Connection :=
  gather (·.change? · key) b actions

variable {b b' : Bench} {a : Action} {o : Outcome} {k : DeviceKey} {d d' : Device}

theorem shift?_eq (hd : b.site.device? k = some d)
    (hd' : (b.step a).1.site.device? k = some d') :
    b.shift? a k = if d.status = d'.status then none else some d'.status := by
  simp [shift?, hd, hd']

theorem shift?_of_none (hd : b.site.device? k = none) : b.shift? a k = none := by
  simp [shift?, hd]

theorem toList_shift? {r : Remote} {states : List Connection} {statuses : List Status}
    (hd : b.site.device? k = some d) (hd' : (b.step a).1.site.device? k = some d')
    (h : d.Step r states statuses d') : (b.shift? a k).toList = statuses := by
  rw [shift?_eq hd hd', h.statuses_eq]
  split <;> rfl

/-! ## The devices that exist -/

theorem Transition.length_devices_le (ht : Transition b a b' o) :
    b.site.devices.length ≤ b'.site.devices.length := by
  rcases ht.size with hsame | ⟨name, hsite⟩ | hmade
  · exact Nat.le_of_eq (congrArg Prod.snd hsame).symm
  · rw [hsite]
    exact Nat.le_refl _
  · exact Nat.le_of_lt (Nat.lt_of_succ_le (Nat.le_of_eq (congrArg Prod.snd hmade).symm))

theorem Sound.device_step (h : b.Sound) (hd : b.site.device? k = some d)
    (hd' : (b.step a).1.site.device? k = some d') : ∃ r, b.site.remote? d.remote = some r ∧
      d.Step r ((b.step a).2.trace.deliveries k) ((b.step a).2.trace.publications k) d' := by
  rcases (transition_step b a).device h hd' with hmade | ⟨d₀, r, hd₀, hr, hstep⟩
  · exact absurd hmade.key (Nat.ne_of_lt (Site.lt_length_of_device? hd))
  · obtain rfl : d = d₀ := Option.some.inj (hd.symm.trans hd₀)
    exact ⟨r, hr, hstep⟩

/-- A device that was made and exists at the end of a run has existed all the time. -/
theorem Sound.exists_device?_of_run (h : b.Sound) (hk : k < b.site.devices.length)
    {actions : List Action} (hd' : (b.run actions).1.site.device? k = some d') :
    ∃ d, b.site.device? k = some d := by
  induction actions generalizing b with
  | nil => exact ⟨d', hd'⟩
  | cons a rest ih =>
    have hlength := (transition_step b a).length_devices_le
    obtain ⟨d₁, hd₁⟩ := ih (h.step a) (Nat.lt_of_lt_of_le hk hlength) hd'
    rcases (transition_step b a).device h hd₁ with hmade | ⟨d, r, hd, -⟩
    · exact absurd hmade.key (Nat.ne_of_lt hk)
    · exact ⟨d, hd⟩

theorem length_devices_le_run (b : Bench) (actions : List Action) :
    b.site.devices.length ≤ (b.run actions).1.site.devices.length := by
  induction actions generalizing b with
  | nil => exact Nat.le_refl _
  | cons a rest ih => exact Nat.le_trans (transition_step b a).length_devices_le (ih _)

theorem Sound.exists_device?_between (h : b.Sound) (first : List Action)
    {second : List Action} (hd : b.site.device? k = some d)
    (hd' : (b.run (first ++ second)).1.site.device? k = some d') :
    ∃ d₁, (b.run first).1.site.device? k = some d₁ := by
  rw [run_append] at hd'
  have hlt := Nat.lt_of_lt_of_le (Site.lt_length_of_device? hd) (length_devices_le_run b first)
  exact (h.run first).exists_device?_of_run hlt hd'

/-! ## Runs -/

/-- Over a run that a device survives, it follows what it is told. -/
theorem Sound.follows_run (h : b.Sound) (hd : b.site.device? k = some d) {actions : List Action}
    (hd' : (b.run actions).1.site.device? k = some d') :
    Device.Follows d.status d.model.loads ((b.history actions).deliveries k)
      (b.shifts actions k) ((b.history actions).publications k) d' := by
  induction actions generalizing b d with
  | nil =>
    obtain rfl : d = d' := Option.some.inj (hd.symm.trans hd')
    exact d.follows_nil
  | cons a rest ih =>
    obtain ⟨d₁, hd₁⟩ := h.exists_device?_between [a] hd hd'
    obtain ⟨r, -, hstep⟩ := h.device_step hd hd₁
    obtain ⟨r₁, -, hatt⟩ := h.site.attached hd
    have hfollows := hstep.follows hatt.mirrors.loaded (ih (h.step a) hd₁ hd')
    rw [history_cons, Trace.deliveries_append, Trace.publications_append, shifts, gather,
      toList_shift? hd hd₁ hstep]
    exact hfollows

/-- A device that does not exist is told nothing. -/
theorem Sound.deliveries_of_none (h : b.Sound) (hd : b.site.device? k = none) (a : Action) :
    (b.step a).2.trace.deliveries k = [] := by
  rcases (transition_step b a).calls_cases h with
    hcalls | ⟨key, r, observer, -, hcalls, -, hdevice⟩ |
      ⟨key, r, r', state, upset, hr, -, -, -, hcalls⟩
  · exact Trace.deliveries_of_calls_eq_nil hcalls
  · rw [Trace.deliveries_of_calls_eq_singleton hcalls, if_neg]
    intro hk
    obtain ⟨d, hd', -⟩ := hdevice k hk
    simp [hd] at hd'
  · rw [Trace.deliveries_eq_nil_iff, hcalls]
    intro c hc hk
    obtain ⟨⟨id, observer⟩, he, rfl⟩ := List.mem_map.1 hc
    obtain rfl : observer = .device k := hk
    obtain ⟨d, hd', -⟩ := h.site.observed hr (mem_of_mem_told he)
    simp [hd] at hd'

/-- A device that is made in a run follows what it is told from the moment that it is there. -/
theorem Sound.follows_run_of_new (h : b.Sound) (hk : b.site.devices.length ≤ k)
    {actions : List Action} (hd : (b.run actions).1.site.device? k = some d) :
    Device.Follows .stopped 0 ((b.history actions).deliveries k) (b.shifts actions k)
      ((b.history actions).publications k) d := by
  induction actions generalizing b with
  | nil => exact absurd (Site.lt_length_of_device? hd) (Nat.not_lt.2 hk)
  | cons a rest ih =>
    have hnone : b.site.device? k = none := by
      simp [Site.device?, List.getElem?_eq_none hk]
    have hdeliveries := h.deliveries_of_none hnone a
    rw [history_cons, Trace.deliveries_append, Trace.publications_append, shifts, gather,
      shift?_of_none hnone, hdeliveries, (transition_step b a).prompted k hdeliveries]
    rcases Nat.lt_or_ge k (b.step a).1.site.devices.length with hlt | hge
    · obtain ⟨d₁, hd₁⟩ := (h.step a).exists_device?_of_run hlt hd
      have hfollows := (h.step a).follows_run hd₁ hd
      rcases (transition_step b a).device h hd₁ with hmade | ⟨d₀, r, hd₀, -⟩
      · rw [hmade.fresh] at hfollows
        exact hfollows
      · simp [hnone] at hd₀
    · exact ih (h.step a) hge hd

/-! ## Started devices -/

section Started

variable {id : ObserverId}

theorem Sound.exists_observer (h : b.Sound) (hd : b.site.device? k = some d)
    (hs : d.started = true) : ∃ id r, d.subscription = some id ∧
      b.site.remote? d.remote = some r ∧ (id, .device k) ∈ r.observers := by
  obtain ⟨r, hr, hatt⟩ := h.site.attached hd
  cases hatt with
  | idle _ hnot => simp [hs] at hnot
  | following id state hid _ hmem => exact ⟨id, r, hid, hr, hmem⟩

/-- A device that has been started is called under its number, and nobody else is. -/
theorem Sound.call_iff (h : b.Sound) (hd : b.site.device? k = some d) (hs : d.started = true)
    (hid : d.subscription = some id) {c : Call} (hc : c ∈ (b.step a).2.trace.calls) :
    c.observer = .device k ↔ c.remote = d.remote ∧ c.id = id := by
  obtain ⟨id₀, r, hid₀, hr, hmem⟩ := h.exists_observer hd hs
  obtain rfl : id₀ = id := Option.some.inj (hid₀.symm.trans hid)
  have hsound := h.site.remote hr
  rcases (transition_step b a).calls_cases h with
    hcalls | ⟨key, r₀, observer, hr₀, hcalls, -, hdevice⟩ |
      ⟨key, r₀, r', state, upset, hr₀, -, -, -, hcalls⟩
  · simp [hcalls] at hc
  · -- The sample is for an observer that is new, which the device is not.
    obtain rfl := List.mem_singleton.1 (hcalls ▸ hc)
    constructor
    · intro hk
      obtain ⟨d₀, hd₀, hnot⟩ := hdevice k hk
      obtain rfl : d = d₀ := Option.some.inj (hd.symm.trans hd₀)
      simp [hs] at hnot
    · rintro ⟨hkey, hnumber⟩
      obtain rfl : r = r₀ := Option.some.inj (hr.symm.trans (hkey ▸ hr₀))
      exact absurd hnumber (Nat.ne_of_gt (hsound.numbered _ hmem))
  · rw [hcalls] at hc
    obtain ⟨⟨number, observer⟩, he, rfl⟩ := List.mem_map.1 hc
    have he := mem_of_mem_told he
    constructor
    · intro hk
      obtain rfl : observer = .device k := hk
      obtain ⟨d₀, hd₀, hkey, hnumber⟩ := h.site.observed hr₀ he
      obtain rfl : d = d₀ := Option.some.inj (hd.symm.trans hd₀)
      exact ⟨hkey.symm, Option.some.inj (hnumber.symm.trans hid)⟩
    · rintro ⟨hkey, hnumber⟩
      obtain rfl : r = r₀ := Option.some.inj (hr.symm.trans (hkey ▸ hr₀))
      exact congrArg Prod.snd (hsound.eq_of_mem he hmem hnumber)

theorem Sound.deliveries_step (h : b.Sound) (hd : b.site.device? k = some d)
    (hs : d.started = true) (hid : d.subscription = some id) (a : Action) :
    (b.step a).2.trace.deliveries k = (b.step a).2.trace.heard d.remote id := by
  rw [Trace.deliveries, Trace.heard, Trace.callsOf, List.filter_filter]
  apply congrArg
  apply List.filter_congr
  intro c hc
  rw [decide_eq_decide.2 (h.call_iff hd hs hid hc), Bool.decide_and, Bool.and_comm]

/-- A device that has been started keeps its place among the observers of its remote. -/
theorem Sound.started_run (h : b.Sound) (hd : b.site.device? k = some d) (hs : d.started = true)
    {actions : List Action} (hd' : (b.run actions).1.site.device? k = some d') :
    d'.started = true ∧ d'.subscription = d.subscription ∧ d'.remote = d.remote := by
  induction actions generalizing b d with
  | nil =>
    obtain rfl : d = d' := Option.some.inj (hd.symm.trans hd')
    exact ⟨hs, rfl, rfl⟩
  | cons a rest ih =>
    obtain ⟨d₁, hd₁⟩ := h.exists_device?_between [a] hd hd'
    obtain ⟨r, -, hstep⟩ := h.device_step hd hd₁
    obtain ⟨hs₁, hid₁⟩ := hstep.of_started hs
    obtain ⟨hs', hid', hremote⟩ := ih (h.step a) hd₁ hs₁ hd'
    exact ⟨hs', hid'.trans hid₁, hremote.trans hstep.remote⟩

theorem Sound.observes_run (h : b.Sound) (hd : b.site.device? k = some d)
    (hs : d.started = true) (hid : d.subscription = some id) {actions : List Action}
    (hd' : (b.run actions).1.site.device? k = some d') :
    (b.run actions).1.observes d.remote id = true := by
  obtain ⟨hs', hid', hremote⟩ := h.started_run hd hs hd'
  obtain ⟨id₀, r, hid₀, hr, hmem⟩ := (h.run actions).exists_observer hd' hs'
  obtain rfl : id₀ = id := Option.some.inj (hid₀.symm.trans (hid'.trans hid))
  exact (observes_iff (hremote ▸ hr)).2 ⟨_, hmem⟩

/-- A device that is started hears what its remote has to tell it, and every change is due. -/
theorem Sound.deliveries_run (h : b.Sound) (hd : b.site.device? k = some d)
    (hs : d.started = true) (hid : d.subscription = some id) {actions : List Action}
    (hd' : (b.run actions).1.site.device? k = some d') :
    (b.history actions).deliveries k = (b.history actions).heard d.remote id ∧
      due d.remote id b actions = b.changes actions d.remote := by
  induction actions generalizing b d with
  | nil => exact ⟨rfl, rfl⟩
  | cons a rest ih =>
    obtain ⟨d₁, hd₁⟩ := h.exists_device?_between [a] hd hd'
    obtain ⟨r, hr, hstep⟩ := h.device_step hd hd₁
    obtain ⟨hs₁, hid₁⟩ := hstep.of_started hs
    obtain ⟨hheard, hdue⟩ := ih (h.step a) hd₁ hs₁ (hid₁.trans hid) hd'
    rw [hstep.remote] at hheard hdue
    have hnow : (b.run []).1.site.device? k = some d := hd
    have hobs : b.observes d.remote id = true := h.observes_run hd hs hid hnow
    constructor
    · rw [history_cons, Trace.deliveries_append, Trace.heard_append, hheard,
        h.deliveries_step hd hs hid]
    · rw [due, if_pos hobs, hdue, changes, changes, gather]

/-- A device that is started at the end of a run has been started by one of its actions. -/
theorem Sound.exists_start (h : b.Sound)
    (hnot : ∀ d, b.site.device? k = some d → d.started = false) {actions : List Action}
    (hd : (b.run actions).1.site.device? k = some d) (hs : d.started = true) :
    ∃ before a after fresh, actions = before ++ a :: after ∧
      (b.run before).1.site.device? k = some fresh ∧ fresh.started = false ∧
        ∃ d₁, ((b.run before).1.step a).1.site.device? k = some d₁ ∧ d₁.started = true := by
  induction actions generalizing b with
  | nil => simp [hnot d hd] at hs
  | cons a rest ih =>
    by_cases hnow : ∃ d₁, (b.step a).1.site.device? k = some d₁ ∧ d₁.started = true
    · obtain ⟨d₁, hd₁, hs₁⟩ := hnow
      rcases (transition_step b a).device h hd₁ with hmade | ⟨d₀, r, hd₀, -⟩
      · rw [hmade.fresh] at hs₁
        simp at hs₁
      · exact ⟨[], a, rest, d₀, rfl, hd₀, hnot d₀ hd₀, d₁, hd₁, hs₁⟩
    · have hnot₁ : ∀ d₁, (b.step a).1.site.device? k = some d₁ → d₁.started = false := by
        intro d₁ hd₁
        simpa using fun hs₁ => hnow ⟨d₁, hd₁, hs₁⟩
      obtain ⟨before, a', after, fresh, rfl, hfresh⟩ := ih (h.step a) hnot₁ hd
      exact ⟨a :: before, a', after, fresh, rfl, hfresh⟩

/-! ### Missed changes -/

theorem due_append (key : RemoteKey) (id : ObserverId) (b : Bench) (first second : List Action) :
    due key id b (first ++ second) = due key id b first ++ due key id (b.run first).1 second := by
  induction first generalizing b with
  | nil => rfl
  | cons a rest ih => simp [due, Bench.run, ih]

/-- An observer that misses a change has not heard of all that was due to it. -/
theorem Sound.heard_ne_due (h : b.Sound) {key : RemoteKey} {r : Remote}
    (hr : b.site.remote? key = some r) (hid : id < r.nextObserver) {first rest : List Action}
    {state : Connection} (hobs : (b.run first).1.observes key id = true)
    (hmissed : Missed (b.run first).1 a key id state) :
    (b.history (first ++ a :: rest)).heard key id ≠ due key id b (first ++ a :: rest) := by
  obtain ⟨r₁, hr₁, hp₁⟩ := hmissed.poisoned
  obtain ⟨-, hcalls, -⟩ := ((h.run first).step a).run_of_poisoned hr₁ hp₁ rest
  have hnil : ((b.run first).1.step a).2.trace.heard key id = [] :=
    Trace.heard_eq_nil fun c hc => Nat.ne_of_lt (hmissed.calls c hc)
  have hrest : (((b.run first).1.step a).1.history rest).heard key id = [] := by
    simp [Trace.heard, hcalls]
  have hheard : (b.history (first ++ a :: rest)).heard key id =
      (b.history first).heard key id := by
    rw [history_append, history_cons, Trace.heard_append, Trace.heard_append, hnil, hrest]
    simp
  have hlength : ((b.history first).heard key id).length ≤ (due key id b first).length := by
    rcases h.heard_run hr hid first with heq | ⟨missed, _, _, _, -, hdue, -⟩
    · rw [heq]
    · simp [hdue]
  intro heq
  have hlengths := congrArg List.length heq
  rw [hheard, due_append, due, if_pos hobs, hmissed.change] at hlengths
  simp at hlengths
  omega

end Started

/-! ## The main statement -/

/-- A device that is started in a run and is there to its end. -/
structure Course where
  before : List Action
  start : Action
  after : List Action
  key : DeviceKey
  /-- The device before it is started. -/
  fresh : Device
  /-- Its remote at that moment. -/
  remote : Remote
  /-- The device at the end. -/
  device : Device
  exists_fresh : (run {} before).1.site.device? key = some fresh
  unstarted : fresh.started = false
  exists_remote : (run {} before).1.site.remote? fresh.remote = some remote
  started : ∃ d, ((run {} before).1.step start).1.site.device? key = some d ∧ d.started = true
  exists_device : (run {} (before ++ start :: after)).1.site.device? key = some device

namespace Course

variable (c : Course)

/-- All that is done. -/
def actions : List Action := c.before ++ c.start :: c.after

/-- The bench in which the device has just been started. -/
def opened : Bench := ((run {} c.before).1.step c.start).1

/-- The states that the device is told. -/
def told : List Connection := (history {} c.actions).deliveries c.key

/-- The statuses that the device comes to show. -/
def shown : List Status := shifts {} c.actions c.key

/-- The status changes that the device has to publish. -/
def published : List Status := (history {} c.actions).publications c.key

/-- The changes of the remote from the start of the device on. -/
def changes : List Connection := c.opened.changes c.after c.fresh.remote

/-- The device misses a change, because an observer that stands before it fails. -/
def Misses : Prop :=
  ∃ first a rest state, c.after = first ++ a :: rest ∧
    Missed (c.opened.run first).1 a c.fresh.remote c.remote.nextObserver state

theorem follows : Device.Follows .stopped 0 c.told c.shown c.published c.device :=
  sound_empty.follows_run_of_new (Nat.zero_le _) c.exists_device

theorem sound_opened : c.opened.Sound := (sound_empty.run c.before).step c.start

theorem exists_opened : ∃ d, c.opened.site.device? c.key = some d ∧ d.started = true ∧
    d.remote = c.fresh.remote ∧ d.subscription = some c.remote.nextObserver ∧
      ((run {} c.before).1.step c.start).2.trace.deliveries c.key = [c.remote.state] := by
  obtain ⟨d, hd, hs⟩ := c.started
  obtain ⟨r, hr, hstep⟩ := (sound_empty.run c.before).device_step c.exists_fresh hd
  obtain rfl : c.remote = r := Option.some.inj (c.exists_remote.symm.trans hr)
  exact ⟨d, hd, hs, hstep.remote, (hstep.of_unstarted c.unstarted hs).symm⟩

theorem told_eq :
    c.told = c.remote.state :: (c.opened.history c.after).deliveries c.key := by
  have hfirst : (history {} c.before).deliveries c.key = [] := by
    have h : (run {} c.before).1.Sound := sound_empty.run c.before
    obtain ⟨r, -, hatt⟩ := h.site.attached c.exists_fresh
    exact (sound_empty.follows_run_of_new (Nat.zero_le _) c.exists_fresh).told_eq_nil
      (hatt.mirrors.unstarted c.unstarted).1
  obtain ⟨-, -, -, -, -, hsample⟩ := c.exists_opened
  rw [told, actions, history_append, history_cons, Trace.deliveries_append,
    Trace.deliveries_append, hfirst, hsample]
  rfl

/-- The device is told all changes of its remote, or it misses the last one. -/
theorem told_cases :
    c.told = c.remote.state :: c.changes ∧ ¬ c.Misses ∨
      c.Misses ∧ ∃ missed, c.remote.state :: c.changes = c.told ++ [missed] := by
  have h := c.sound_opened
  obtain ⟨d, hd, hs, hremote, hid, -⟩ := c.exists_opened
  have hend : (c.opened.run c.after).1.site.device? c.key = some c.device := by
    rw [opened, ← run_append_cons]
    exact c.exists_device
  obtain ⟨hheard, hdue⟩ := h.deliveries_run hd hs hid hend
  obtain ⟨id, r, hid', hr, hmem⟩ := h.exists_observer hd hs
  obtain rfl : id = c.remote.nextObserver := Option.some.inj (hid'.symm.trans hid)
  have hlt := (h.site.remote hr).numbered _ hmem
  rw [told_eq, hheard, changes, ← hremote, ← hdue]
  rcases h.heard_run hr hlt c.after with heq | ⟨missed, first, a, rest, hafter, hmiss, hmissed⟩
  · refine Or.inl ⟨by rw [heq], ?_⟩
    rintro ⟨first, a, rest, state, hafter, hmissed⟩
    rw [hafter] at heq hend
    obtain ⟨d₁, hd₁⟩ := h.exists_device?_between first hd hend
    have hobs := h.observes_run hd hs hid hd₁
    exact h.heard_ne_due hr hlt hobs (hremote ▸ hmissed) heq
  · refine Or.inr ⟨⟨first, a, rest, missed, hafter, hremote ▸ hmissed⟩, missed, ?_⟩
    rw [hmiss]
    rfl

/-- Two devices have shown the same if their remotes had the same state when they were started and
the same changes from then on, unless only one of them has missed a change. -/
theorem told_eq_told {c c' : Course} (hstate : c.remote.state = c'.remote.state)
    (hchanges : c.changes = c'.changes) (hmisses : c.Misses ↔ c'.Misses) : c.told = c'.told := by
  have hall : c.remote.state :: c.changes = c'.remote.state :: c'.changes := by
    rw [hstate, hchanges]
  rcases c.told_cases with ⟨htold, hnot⟩ | ⟨hmissed, state, htold⟩ <;>
    rcases c'.told_cases with ⟨htold', hnot'⟩ | ⟨hmissed', state', htold'⟩
  · rw [htold, htold', hall]
  · exact absurd (hmisses.2 hmissed') hnot
  · exact absurd (hmisses.1 hmissed) hnot'
  · rw [htold, htold'] at hall
    exact List.append_inj_left' hall rfl

end Course

/-- Every device that is started at the end of a run has been started in it. -/
theorem exists_course {actions : List Action}
    (hd : (run {} actions).1.site.device? k = some d) (hs : d.started = true) :
    ∃ c : Course, c.actions = actions ∧ c.key = k ∧ c.device = d := by
  have hnot : ∀ d, ({} : Bench).site.device? k = some d → d.started = false := by
    simp [Site.device?]
  obtain ⟨before, a, after, fresh, rfl, hfresh, hunstarted, hstarted⟩ :=
    sound_empty.exists_start hnot hd hs
  obtain ⟨r, hr, -⟩ := (sound_empty.run before).site.attached hfresh
  exact ⟨{
    before, start := a, after, key := k, fresh, remote := r, device := d
    exists_fresh := hfresh
    unstarted := hunstarted
    exists_remote := hr
    started := hstarted
    exists_device := hd }, rfl, rfl, rfl⟩

/-- Statuses follow deliveries.  After every run, each state that a device was told has changed its
status, has been published once, and has loaded the model if it is the connected one.  What a
started device was told is the state that its remote had at the start and every change from then on,
but for one change that it misses if an observer that stands before it fails.  So two devices whose
remotes agree from the start on have shown the same, unless only one of them has missed a change. -/
theorem statuses_follow_deliveries :
    (∀ actions k d, (run {} actions).1.site.device? k = some d →
      Device.Follows .stopped 0 ((history {} actions).deliveries k) (shifts {} actions k)
        ((history {} actions).publications k) d ∧
      (d.started = true → ∃ c : Course, c.actions = actions ∧ c.key = k ∧ c.device = d)) ∧
    (∀ c : Course, c.told = c.remote.state :: c.changes ∧ ¬ c.Misses ∨
      c.Misses ∧ ∃ missed, c.remote.state :: c.changes = c.told ++ [missed]) ∧
    ∀ c c' : Course, c.remote.state = c'.remote.state → c.changes = c'.changes →
      (c.Misses ↔ c'.Misses) → c.shown = c'.shown ∧ c.published = c'.published ∧
        c.device.status = c'.device.status ∧ c.device.model.loads = c'.device.model.loads := by
  refine ⟨?_, Course.told_cases, ?_⟩
  · intro actions k d hd
    exact ⟨sound_empty.follows_run_of_new (Nat.zero_le _) hd, exists_course hd⟩
  · intro c c' hstate hchanges hmisses
    have htold := Course.told_eq_told hstate hchanges hmisses
    have hfollows := c.follows
    have hfollows' := c'.follows
    have hshown : c.shown = c'.shown := by
      rw [hfollows.shown_eq, hfollows'.shown_eq, htold]
    refine ⟨hshown, ?_, ?_, ?_⟩
    · rw [hfollows.published_eq, hfollows'.published_eq, htold]
    · have hlast := hfollows.current
      rw [hshown, hfollows'.current] at hlast
      exact (Option.some.inj hlast).symm
    · rw [hfollows.loads_eq, hfollows'.loads_eq, htold]

/-- A device is started, and its remote is connected. -/
def undisturbed : Course where
  before := [.newRemote ['r'] ['p'], .newDevice ['a'] (.handle ['r']) []]
  start := .start ['a']
  after := [.setState (.handle ['r']) .connected]
  key := 0
  fresh := { remote := 0 }
  remote := { name := ['p'] }
  device := { remote := 0, started := true, status := .connected, subscription := some 0,
              model := { loaded := true, loads := 1 } }
  exists_fresh := by decide
  unstarted := rfl
  exists_remote := by decide
  started := ⟨{ remote := 0, started := true, status := .disconnected, subscription := some 0 },
    by decide⟩
  exists_device := by decide

/-- The same with a remote that was connected before, and with a recorder that came first. -/
def reconnected : Course where
  before := [.newRemote ['r'] ['p'], .setState (.handle ['r']) .connected,
    .newDevice ['a'] (.handle ['r']) [], .setState (.handle ['r']) .disconnected,
    .subscribe ['s'] (.handle ['r']) none]
  start := .start ['a']
  after := [.setState (.handle ['r']) .disconnected, .setState (.handle ['r']) .connected]
  key := 0
  fresh := { remote := 0 }
  remote := { name := ['p'], observers := [(0, .recorder ['s'] none)], nextObserver := 1 }
  device := { remote := 0, started := true, status := .connected, subscription := some 1,
              model := { loaded := true, loads := 1 } }
  exists_fresh := by decide
  unstarted := rfl
  exists_remote := by decide
  started := ⟨{ remote := 0, started := true, status := .disconnected, subscription := some 1 },
    by decide⟩
  exists_device := by decide

/-- The same with a recorder that came first and fails when the remote is connected. -/
def disturbed : Course where
  before := [.newRemote ['r'] ['p'], .newDevice ['a'] (.handle ['r']) [],
    .subscribe ['s'] (.handle ['r']) (some .connected)]
  start := .start ['a']
  after := [.setState (.handle ['r']) .connected]
  key := 0
  fresh := { remote := 0 }
  remote := { name := ['p'], observers := [(0, .recorder ['s'] (some .connected))],
              nextObserver := 1 }
  device := { remote := 0, started := true, status := .disconnected, subscription := some 1 }
  exists_fresh := by decide
  unstarted := rfl
  exists_remote := by decide
  started := ⟨{ remote := 0, started := true, status := .disconnected, subscription := some 1 },
    by decide⟩
  exists_device := by decide

/-- What a remote did before a device was started makes no difference to the device. -/
theorem statuses_follow_deliveries_reconnected :
    Device.Follows .stopped 0 [.disconnected, .connected] [.disconnected, .connected]
        [.disconnected, .connected] reconnected.device ∧
      undisturbed.remote.state = reconnected.remote.state ∧
      undisturbed.changes = reconnected.changes ∧
      (undisturbed.Misses ↔ reconnected.Misses) ∧
      undisturbed.shown = reconnected.shown ∧ undisturbed.published = reconnected.published ∧
      undisturbed.device.status = reconnected.device.status ∧
      undisturbed.device.model.loads = reconnected.device.model.loads := by
  obtain ⟨hfollows, hcases, hsame⟩ := statuses_follow_deliveries
  have hstate : undisturbed.remote.state = reconnected.remote.state := by decide
  have hchanges : undisturbed.changes = reconnected.changes := by decide
  have hall : ∀ c : Course, c.told = c.remote.state :: c.changes → ¬ c.Misses := by
    intro c htold
    rcases hcases c with ⟨-, hnot⟩ | ⟨-, missed, hmissed⟩
    · exact hnot
    · simp [htold] at hmissed
  have hmisses : undisturbed.Misses ↔ reconnected.Misses :=
    iff_of_false (hall undisturbed (by decide)) (hall reconnected (by decide))
  exact ⟨(hfollows reconnected.actions 0 reconnected.device (by decide)).1, hstate, hchanges,
    hmisses, hsame undisturbed reconnected hstate hchanges hmisses⟩

/-- A device that has missed a change shows something else than one that has not, although their
remotes had the same state when they were started, and the same changes from then on. -/
theorem shown_ne_of_disturbed :
    undisturbed.remote.state = disturbed.remote.state ∧
      undisturbed.changes = disturbed.changes ∧ undisturbed.shown ≠ disturbed.shown ∧
      undisturbed.published ≠ disturbed.published ∧
      undisturbed.device.status ≠ disturbed.device.status ∧
      undisturbed.device.model.loads ≠ disturbed.device.model.loads := by
  decide

end Bench

end DeviceTwin
