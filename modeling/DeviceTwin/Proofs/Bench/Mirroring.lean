import DeviceTwin.Proofs.Bench.Soundness
import DeviceTwin.Proofs.Site.Publications

/-!
# Devices mirror their remotes

The main statement, `device_mirrors_remote`, is about any device after any run: its status and its
model agree; as long as it has not been started it shows nothing of its remote; from then on it
shows the state of its remote, unless an observer has failed and poisoned that.  It also bounds the
two counters of the library by the number of actions, so that counters of 64 bits would not
overflow in any run that can be carried out.
-/

namespace DeviceTwin

/-! ## One device at a time -/

/-- What can happen to a device of a remote in one go: the states that it is told, the status
changes that it has to publish, and the device after it. -/
inductive Device.Step (d : Device) (r : Remote) :
    List Connection → List Status → Device → Prop where
  | quiet : Step d r [] [] d
  | told {d' : Device} (state : Connection) (unpoisoned : r.poisoned = false)
      (change : r.state ≠ state) (new : d.status ≠ .ofConnection state) (h : d.Told state d') :
      Step d r [state] [.ofConnection state] d'
  | started {d' : Device} (unpoisoned : r.poisoned = false) (unstarted : d.started = false)
      (new : d.status = .stopped) (h : ({ d with started := true } : Device).Told r.state d') :
      Step d r [r.state] [.ofConnection r.state] { d' with subscription := some r.nextObserver }

namespace Device

variable {d d' : Device} {r : Remote} {states : List Connection} {statuses : List Status}

theorem Told.loads_le {state : Connection} (h : d.Told state d') :
    d'.model.loads ≤ d.model.loads + 1 := by
  rw [h.model, Model.loads_follow]
  split <;> omega

/-- A model is loaded at most once at a time. -/
theorem Step.loads_le (h : d.Step r states statuses d') :
    d'.model.loads ≤ d.model.loads + 1 := by
  cases h with
  | quiet => exact Nat.le_succ _
  | told _ _ _ _ h => exact h.loads_le
  | started _ _ _ h => exact h.loads_le

theorem Step.remote (h : d.Step r states statuses d') : d'.remote = d.remote := by
  cases h with
  | quiet => rfl
  | told _ _ _ _ h => exact h.remote
  | started _ _ _ h => exact h.remote

end Device

/-! ## Agreement -/

/-- How a device stands to its remote, as far as both can be asked. -/
structure Device.Mirrors (d : Device) (r : Remote) : Prop where
  loaded : d.status = .connected ↔ d.model.loaded = true
  unstarted : d.started = false →
    d.status = .stopped ∧ d.model.empty = true ∧ d.model.loads = 0
  started : d.started = true → d.status ≠ .stopped
  current : d.started = true → r.poisoned = false →
    (d.status = .connected ↔ r.state = .connected)

theorem Device.Attached.mirrors {k : DeviceKey} {d : Device} {r : Remote}
    (h : d.Attached k r) : d.Mirrors r := by
  cases h with
  | idle hsub hstarted hstatus hmodel =>
    exact
      { loaded := by simp [hstatus, hmodel]
        unstarted := fun _ => by simp [hstatus, hmodel, Model.empty]
        started := fun h => by simp [hstarted] at h
        current := fun h => by simp [hstarted] at h }
  | following id state hsub hstarted hmem hstatus hmodel hcurrent =>
    have hconnected : d.status = .connected ↔ state = .connected := by
      rw [hstatus]
      exact Status.ofConnection_eq_connected
    exact
      { loaded := by
          rw [hconnected, hmodel]
          cases state <;> simp [Connection.isConnected]
        unstarted := fun h => by simp [hstarted] at h
        started := fun _ => by
          rw [hstatus]
          exact Status.ofConnection_ne_stopped
        current := fun _ hp => by rw [hconnected, hcurrent hp] }

/-! ## What operations do to one device -/

namespace Site

variable {s : Site} {k : DeviceKey} {d' : Device}

/-- Nothing has happened to a device that is told nothing and is as it was. -/
theorem Sound.device_quiet (h : s.Sound) {t : Trace} (ht : t.Prompted)
    (hnil : t.deliveries k = []) (hd' : s.device? k = some d') :
    ∃ d r, s.device? k = some d ∧ s.remote? d.remote = some r ∧
      d.Step r (t.deliveries k) (t.publications k) d' := by
  obtain ⟨r, hr, -⟩ := h.attached hd'
  rw [hnil, ht k hnil]
  exact ⟨d', r, hd', hr, .quiet⟩

theorem Sound.device_step_setState (h : s.Sound) (key : RemoteKey) (state : Connection)
    (upset : List ObserverId) (hd' : (s.setState key state upset).site.device? k = some d') :
    ∃ d r, s.device? k = some d ∧ s.remote? d.remote = some r ∧
      d.Step r ((s.setState key state upset).trace.deliveries k)
        ((s.setState key state upset).trace.publications k) d' := by
  have hprompted : (s.setState key state upset).trace.Prompted := prompted_setState _ _
  rcases setState_cases s key state upset with ⟨hsite, hcalls, -⟩ | ⟨r, hr, hp, hs, he⟩
  · rw [hsite] at hd'
    exact h.device_quiet hprompted (Trace.deliveries_of_calls_eq_nil hcalls) hd'
  · by_cases htold : ∃ i, (i, .device k) ∈ told state upset r.observers
    · obtain ⟨i, hi⟩ := htold
      obtain ⟨d, hd, rfl, hid⟩ := h.observed hr (mem_of_mem_told hi)
      obtain ⟨d₁, hd₁, htold⟩ := he.device?_of_told k d i hd hi
      obtain rfl : d₁ = d' := Option.some.inj (hd₁.symm.trans hd')
      -- The device shows the state that its remote is about to leave.
      have hnew : d.status ≠ .ofConnection state := by
        obtain ⟨r₁, hr₁, hatt⟩ := h.attached hd
        obtain rfl : r = r₁ := Option.some.inj (hr.symm.trans hr₁)
        cases hatt with
        | idle hnone => simp [hid] at hnone
        | following _ shown _ _ _ hstatus _ hcurrent =>
          rw [hstatus, Ne, Status.ofConnection_inj, ← hcurrent hp]
          exact hs
      rw [h.deliveries_of_told _ _ hr he hi, publications_setState_of_told _ _ hr hp hs hd hi,
        if_neg hnew]
      exact ⟨d, r, hd, hr, .told state hp hs hnew htold⟩
    · have hnil : (s.setState key state upset).trace.deliveries k = [] := by
        rw [Trace.deliveries_eq_nil_iff, he.calls]
        intro c hc hk
        obtain ⟨⟨i, observer⟩, hi, rfl⟩ := List.mem_map.1 hc
        obtain rfl : observer = .device k := hk
        exact htold ⟨i, hi⟩
      rw [he.device?_of_not_told k fun i hi => htold ⟨i, hi⟩] at hd'
      exact h.device_quiet hprompted hnil hd'

theorem Sound.device_step_start (h : s.Sound) (k₀ : DeviceKey)
    (hd' : (s.start k₀).site.device? k = some d') :
    ∃ d r, s.device? k = some d ∧ s.remote? d.remote = some r ∧
      d.Step r ((s.start k₀).trace.deliveries k) ((s.start k₀).trace.publications k) d' := by
  rcases h.start_cases k₀ with ⟨hsite, hcalls, -⟩ | ⟨d, r, hd, hr, hp, hs, hsub, he⟩
  · rw [hsite] at hd'
    exact h.device_quiet prompted_start (Trace.deliveries_of_calls_eq_nil hcalls) hd'
  · have hdeliveries := Trace.deliveries_of_calls_eq_singleton (k := k) he.calls
    by_cases hk : k = k₀
    · subst hk
      obtain ⟨d₁, hd₁, htold⟩ := he.device?
      rw [hd₁] at hd'
      cases hd'
      have hstatus : d.status = .stopped := by
        obtain ⟨r₁, -, hatt⟩ := h.attached hd
        exact (hatt.mirrors.unstarted hs).1
      rw [hdeliveries, if_pos rfl, publications_start hd hr hp hs hsub hstatus]
      exact ⟨d, r, hd, hr, .started hp hs hstatus htold⟩
    · have hnil : (s.start k₀).trace.deliveries k = [] := by
        rw [hdeliveries, if_neg fun heq => hk (Observer.device.inj heq).symm]
      rw [he.device?_of_ne k hk] at hd'
      exact h.device_quiet prompted_start hnil hd'

theorem device?_of_dropDevice {k₀ : DeviceKey} (hd' : (s.dropDevice k₀).1.device? k = some d') :
    s.device? k = some d' := by
  cases hd : s.device? k₀ with
  | none => simpa [dropDevice, hd] using hd'
  | some d =>
    rw [device?_dropDevice hd] at hd'
    split at hd'
    · simp at hd'
    · exact hd'

end Site

namespace Bench

variable {b b' : Bench} {a : Action} {o : Outcome}

/-- A device has just been made for the remote of a holder. -/
structure Makes (b : Bench) (k : DeviceKey) (d : Device) : Prop where
  key : k = b.site.devices.length
  held : ∃ holder, b.remoteKey? holder = some d.remote
  fresh : d = { remote := d.remote, senders := d.senders }

theorem prompted_dropSubscription? (b : Bench) (s : Option Subscription) :
    (b.dropSubscription? s).2.Prompted := by
  cases s with
  | none => exact Trace.prompted_nil
  | some s =>
    simp only [dropSubscription?, dropSubscription]
    split
    · exact Site.prompted_unsubscribe _
    · exact Trace.prompted_nil

theorem Transition.prompted (ht : Transition b a b' o) : o.trace.Prompted := by
  cases ht with
  | idle | channels | cloneRemote | dropRemote | newRemote => exact Trace.prompted_nil
  | @newDevice name =>
    cases b.devices.get? name with
    | none => exact Trace.prompted_nil
    | some old => exact Site.prompted_dropDevice
  | dropDevice => exact Site.prompted_dropDevice
  | start => exact Site.prompted_start
  | setState => exact Site.prompted_setState _ _
  | refused => exact Site.prompted_subscribe _
  | subscribed => exact (Site.prompted_subscribe _).append (prompted_dropSubscription? _ _)
  | @unsubscribe subscription s => exact prompted_dropSubscription? b (some s)

/-- A device after a transition is new, or one step has happened to it. -/
theorem Transition.device (ht : Transition b a b' o) (h : b.Sound) {k : DeviceKey} {d' : Device}
    (hd' : b'.site.device? k = some d') :
    Makes b k d' ∨ ∃ d r, b.site.device? k = some d ∧ b.site.remote? d.remote = some r ∧
      d.Step r (o.trace.deliveries k) (o.trace.publications k) d' := by
  have hquiet : o.trace.deliveries k = [] → b.site.device? k = some d' →
      Makes b k d' ∨ ∃ d r, b.site.device? k = some d ∧ b.site.remote? d.remote = some r ∧
        d.Step r (o.trace.deliveries k) (o.trace.publications k) d' :=
    fun hnil hd => Or.inr (h.site.device_quiet ht.prompted hnil hd)
  cases ht with
  | idle | cloneRemote | dropRemote => exact hquiet rfl hd'
  | channels a answer remotes devices =>
    exact hquiet rfl (by simpa [Site.device?, devices] using hd')
  | newRemote => exact hquiet rfl (by simpa using hd')
  | @newDevice name remote channels key keys hkey =>
    have hadded : (b.addDevice name key keys).site.device? k = some d' := by
      cases hold : b.devices.get? name with
      | none => rwa [hold] at hd'
      | some old =>
        rw [hold] at hd'
        exact Site.device?_of_dropDevice hd'
    rw [device?_addDevice] at hadded
    split at hadded
    · next hk =>
      cases hadded
      exact Or.inl ⟨hk, ⟨remote, hkey⟩, rfl⟩
    · apply hquiet _ hadded
      cases b.devices.get? name with
      | none => rfl
      | some old => exact Trace.deliveries_of_calls_eq_nil (Site.calls_dropDevice _ old)
  | dropDevice =>
    exact hquiet (Trace.deliveries_of_calls_eq_nil (Site.calls_dropDevice _ _))
      (Site.device?_of_dropDevice hd')
  | start => exact Or.inr (h.site.device_step_start _ hd')
  | setState => exact Or.inr (h.site.device_step_setState _ _ _ hd')
  | refused =>
    apply hquiet (Site.deliveries_subscribe_recorder _ _)
    simpa [Site.device?_subscribe_recorder] using hd'
  | subscribed _ _ _ _ _ hb₁ =>
    apply hquiet
    · rw [Trace.deliveries_append, Site.deliveries_subscribe_recorder, List.nil_append]
      exact Trace.deliveries_of_calls_eq_nil (calls_dropSubscription? _ _)
    · simpa [hb₁, Site.device?_subscribe_recorder] using hd'
  | @unsubscribe subscription s =>
    have hsame := device?_dropSubscription? b (some s) k
    exact hquiet (Trace.deliveries_of_calls_eq_nil (calls_dropSubscription? b (some s)))
      (hsame.symm.trans hd')

/-! ## Counters -/

theorem loads_le_length (actions : List Action) {k : DeviceKey} {d : Device}
    (hd : (run {} actions).1.site.device? k = some d) : d.model.loads ≤ actions.length := by
  have hrun := run_induction
    (p := fun b outcomes => ∀ k d, b.site.device? k = some d → d.model.loads ≤ outcomes.length)
    (by simp [Site.device?]) ?_ actions
  · simpa [length_run] using hrun k d hd
  · intro b outcomes a hb ih k d' hd'
    rw [List.length_append, List.length_singleton]
    rcases (transition_step b a).device hb hd' with hmade | ⟨d, r, hd, -, hstep⟩
    · rw [hmade.fresh]
      exact Nat.zero_le _
    · exact Nat.le_trans hstep.loads_le (Nat.succ_le_succ (ih k d hd))

theorem nextObserver_le_length (actions : List Action) {key : RemoteKey} {r : Remote}
    (hr : (run {} actions).1.site.remote? key = some r) : r.nextObserver ≤ actions.length := by
  have hrun := run_induction
    (p := fun b outcomes => ∀ key r, b.site.remote? key = some r →
      r.nextObserver ≤ outcomes.length)
    (by simp [Site.remote?]) ?_ actions
  · simpa [length_run] using hrun key r hr
  · intro b outcomes a hb ih key r' hr'
    rw [List.length_append, List.length_singleton]
    cases hr : b.site.remote? key with
    | none =>
      obtain ⟨name, rfl⟩ := (transition_step b a).remote_new hr hr'
      exact Nat.zero_le _
    | some r =>
      obtain ⟨r₁, hr₁, hstep, -⟩ := (transition_step b a).remote hb hr
      obtain rfl : r₁ = r' := by simpa [hr₁] using hr'
      exact Nat.le_trans hstep.nextObserver_le_succ (Nat.succ_le_succ (ih key r hr))

/-! ## Poison -/

/-- A remote is poisoned only by an observer of its own that fails when it is called. -/
theorem exists_failure_of_poisoned (actions : List Action) {key : RemoteKey} {r : Remote}
    (hr : (run {} actions).1.site.remote? key = some r) (hp : r.poisoned = true) :
    ∃ o ∈ (run {} actions).2, o.answer = .panicked .observerFailed ∧
      ∃ c ∈ o.trace.calls, c.remote = key := by
  refine run_induction
    (p := fun b outcomes => ∀ r, b.site.remote? key = some r → r.poisoned = true →
      ∃ o ∈ outcomes, o.answer = .panicked .observerFailed ∧ ∃ c ∈ o.trace.calls, c.remote = key)
    (by simp [Site.remote?]) ?_ actions r hr hp
  intro b outcomes a hb ih r' hr' hp'
  cases hr : b.site.remote? key with
  | none =>
    obtain ⟨name, rfl⟩ := (transition_step b a).remote_new hr hr'
    simp at hp'
  | some r =>
    obtain ⟨r₁, hr₁, hstep, hcause, -⟩ := (transition_step b a).remote hb hr
    obtain rfl : r₁ = r' := by simpa [hr₁] using hr'
    by_cases hp : r.poisoned = true
    · obtain ⟨o, ho, hfailed⟩ := ih r hr hp
      exact ⟨o, List.mem_append_left _ ho, hfailed⟩
    · have hne : r₁.poisoned ≠ r.poisoned := fun heq => hp (heq ▸ hp')
      have hanswer := hcause.resolve_left hne
      obtain ⟨c, hc⟩ := List.exists_mem_of_ne_nil _ fun hnil => hne (hstep.poisoned_of_nil hnil)
      obtain ⟨hmem, hkey⟩ := List.mem_filter.1 hc
      exact ⟨_, List.mem_append_right _ (List.mem_singleton_self _), hanswer, c, hmem,
        by simpa using hkey⟩

/-! ## The main statement -/

/-- Asking a device by its name gives its status, its model, and whether it has been started, and
changes nothing. -/
structure Shows (b : Bench) (name : Text) (d : Device) : Prop where
  status : b.step (.askDevice name .status) = (b, { answer := .status d.status })
  model : b.step (.askDevice name .model) = (b, { answer := .model d.model })
  started : b.step (.askDevice name .started) = (b, { answer := .flag d.started })

theorem shows_of_device? {b : Bench} {name : Text} {k : DeviceKey} {d : Device}
    (hk : b.devices.get? name = some k) (hd : b.site.device? k = some d) : b.Shows name d where
  status := by simp [step, withDevice, hk, hd, answerDevice]
  model := by simp [step, withDevice, hk, hd, answerDevice]
  started := by simp [step, withDevice, hk, hd, answerDevice]

/-- Devices mirror their remotes: every name of a device stands for one that exists, and every
device that exists has a name, can be asked for anything, and agrees with its remote.  Only an
observer that has failed lets a started device fall behind its remote. -/
theorem device_mirrors_remote (actions : List Action) :
    (∀ name key, (run {} actions).1.devices.get? name = some key →
      ∃ d, (run {} actions).1.site.device? key = some d) ∧
    ∀ key d, (run {} actions).1.site.device? key = some d →
      d.model.loads ≤ actions.length ∧
      (∃ name, (run {} actions).1.devices.get? name = some key ∧
        (run {} actions).1.Shows name d) ∧
      ∃ r, (run {} actions).1.site.remote? d.remote = some r ∧ d.Mirrors r ∧
        r.nextObserver ≤ actions.length ∧
        (r.poisoned = true → ∃ o ∈ (run {} actions).2, o.answer = .panicked .observerFailed ∧
          ∃ c ∈ o.trace.calls, c.remote = d.remote) := by
  have hsound : (run {} actions).1.Sound := sound_empty.run actions
  refine ⟨fun name key hname => hsound.devices.leads hname, ?_⟩
  intro key d hd
  obtain ⟨name, hname⟩ := hsound.devices.named ⟨d, hd⟩
  obtain ⟨r, hr, hatt⟩ := hsound.site.attached hd
  exact ⟨loads_le_length actions hd, ⟨name, hname, shows_of_device? hname hd⟩, r, hr,
    hatt.mirrors, nextObserver_le_length actions hr, exists_failure_of_poisoned actions hr⟩

/-- Two devices with a recorder between them, of which the recorder fails when all are told that
the remote is connected. -/
def interrupted : List Action :=
  [.newRemote ['r'] ['p'], .newDevice ['a'] (.handle ['r']) [], .newDevice ['b'] (.handle ['r']) [],
    .start ['a'], .subscribe ['s'] (.handle ['r']) none, .start ['b'],
    .setState (.handle ['r']) .connected [1]]

/-- The second device has fallen behind a remote that is connected, and agrees with itself. -/
theorem device_mirrors_remote_interrupted :
    (run {} interrupted).1.site.device? 1 =
        some { remote := 0, started := true, status := .disconnected, subscription := some 2 } ∧
      (run {} interrupted).1.devices.get? ['b'] = some 1 ∧
      ∃ r, (run {} interrupted).1.site.remote? 0 = some r ∧ r.state = .connected ∧
        Device.Mirrors
          { remote := 0, started := true, status := .disconnected, subscription := some 2 } r ∧
        ∃ o ∈ (run {} interrupted).2, o.answer = .panicked .observerFailed := by
  have hd : (run {} interrupted).1.site.device? 1 =
      some { remote := 0, started := true, status := .disconnected, subscription := some 2 } := by
    decide
  obtain ⟨-, -, r, hr, hmirrors, -, hcause⟩ := (device_mirrors_remote interrupted).2 1 _ hd
  have hstate : ((run {} interrupted).1.site.remote? 0).map (fun r => (r.state, r.poisoned)) =
      some (.connected, true) := by decide
  simp only [hr, Option.map_some, Option.some.injEq, Prod.mk.injEq] at hstate
  obtain ⟨o, ho, hfailed, -⟩ := hcause hstate.2
  exact ⟨hd, by decide, r, hr, hstate.1, hmirrors, o, ho, hfailed⟩

end Bench

end DeviceTwin
