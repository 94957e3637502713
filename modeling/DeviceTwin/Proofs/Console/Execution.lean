import DeviceTwin.Console.Reply
import DeviceTwin.Proofs.Site.Soundness

/-!
# Commands on a device

What a command is answered with does not depend on where the device publishes its status changes:
a site without channels gives the same answers (`silences_execute`).  And as long as nothing but
devices observes a remote, nothing can go wrong: every command is answered (`execute_of_ready`).
-/

namespace DeviceTwin

/-- The device without its senders. -/
def Device.silent (d : Device) : Device := { d with senders := [] }

/-- The site without its channels. -/
def Site.silent (s : Site) : Site :=
  { s with devices := s.devices.map (Option.map Device.silent), channels := [] }

theorem Device.follow_silent (k : DeviceKey) (channels : List Channel) (d : Device)
    (state : Connection) :
    (d.silent.follow k [] state).1 = [] ∧
      (d.silent.follow k [] state).2.1 = (d.follow k channels state).2.1.silent := by
  unfold Device.follow
  by_cases h : d.status = .ofConnection state
  · simp [h, Device.silent]
  · simp [h, Device.silent, offer]

/-- One operation goes like another, but on a site without channels. -/
structure Effect.Silences {α : Type} (e e' : Effect α) : Prop where
  site : e'.site = e.site.silent
  result : e'.result = e.result

namespace Site

variable (s : Site) (key : RemoteKey) (k : DeviceKey)

/-! ## Without channels -/

@[simp] theorem remote?_silent : s.silent.remote? key = s.remote? key := rfl

@[simp] theorem device?_silent : s.silent.device? k = (s.device? k).map Device.silent := by
  simp only [device?, silent, List.getElem?_map]
  cases s.devices[k]? <;> rfl

theorem silent_modifyRemote (f : Remote → Remote) :
    (s.modifyRemote key f).silent = s.silent.modifyRemote key f := rfl

theorem silent_modifyDevice {f : Device → Device} (hf : ∀ d, (f d).silent = f d.silent) :
    (s.modifyDevice k f).silent = s.silent.modifyDevice k f := by
  have hmap : (s.devices.modify k (Option.map f)).map (Option.map Device.silent) =
      (s.devices.map (Option.map Device.silent)).modify k (Option.map f) := by
    apply List.ext_getElem?
    intro i
    simp only [List.getElem?_map, List.getElem?_modify]
    cases s.devices[i]? with
    | none => rfl
    | some d =>
      by_cases hi : k = i
      · cases d with
        | none => simp [hi]
        | some d => simp [hi, hf]
      · simp [hi]
  simp [silent, modifyDevice, hmap]

theorem silent_call (id : ObserverId) (observer : Observer) (state : Connection) (upset : Bool) :
    (s.silent.call key id observer state upset).site =
      (s.call key id observer state upset).site.silent := by
  cases observer with
  | recorder => rfl
  | device k =>
    cases hd : s.device? k with
    | none => simp [call, hd]
    | some d =>
      obtain ⟨hchannels, hdevice⟩ := Device.follow_silent k s.channels d state
      have hnone : s.silent.channels = [] := rfl
      simp only [call, device?_silent, hd, Option.map_some, hnone, hchannels, hdevice]
      simp [silent]

theorem silent_callAll (state : Connection) (upset : List ObserverId)
    (observers : List (ObserverId × Observer)) :
    (s.silent.callAll key state upset observers).site =
      (s.callAll key state upset observers).site.silent := by
  induction observers generalizing s with
  | nil => rfl
  | cons e rest ih =>
    simp only [callAll, failed_call]
    split
    · exact silent_call ..
    · rw [silent_call]
      exact ih _

/-! ## Operations without channels -/

section Silences

variable {s}

theorem silences_setState (state : Connection) (upset : List ObserverId) :
    (s.setState key state upset).Silences (s.silent.setState key state upset) := by
  cases hr : s.remote? key with
  | none =>
    rw [setState_of_dangling hr, setState_of_dangling (by simpa using hr)]
    exact ⟨rfl, rfl⟩
  | some r =>
    by_cases hp : r.poisoned = true
    · rw [setState_of_poisoned hr hp, setState_of_poisoned (by simpa using hr) hp]
      exact ⟨rfl, rfl⟩
    · have hp : r.poisoned = false := by simpa using hp
      by_cases hs : r.state = state
      · rw [setState_of_eq hr hp hs, setState_of_eq (by simpa using hr) hp hs]
        exact ⟨rfl, rfl⟩
      · have hcall := silent_callAll (s.modifyRemote key ({ · with state })) key state upset
          r.observers
        simp only [setState, remote?_silent, hr, hp, hs, Bool.false_eq_true, if_false,
          ← silent_modifyRemote, failed_callAll]
        split
        · refine ⟨?_, rfl⟩
          rw [hcall]
          rfl
        · exact ⟨hcall, rfl⟩

theorem silences_subscribe (observer : Observer) :
    (s.subscribe key observer).Silences (s.silent.subscribe key observer) := by
  cases hr : s.remote? key with
  | none =>
    rw [subscribe_of_dangling hr, subscribe_of_dangling (by simpa using hr)]
    exact ⟨rfl, rfl⟩
  | some r =>
    by_cases hp : r.poisoned = true
    · rw [subscribe_of_poisoned hr hp, subscribe_of_poisoned (by simpa using hr) hp]
      exact ⟨rfl, rfl⟩
    · have hp : r.poisoned = false := by simpa using hp
      simp only [subscribe, remote?_silent, hr, hp, Bool.false_eq_true, if_false, failed_call,
        silent_call]
      split
      · exact ⟨rfl, rfl⟩
      · exact ⟨rfl, rfl⟩

theorem silences_inspect {α : Type} (f : Remote → α) :
    (s.inspect key f).Silences (s.silent.inspect key f) := by
  cases hr : s.remote? key with
  | none =>
    simp only [inspect, remote?_silent, hr]
    exact ⟨rfl, rfl⟩
  | some r =>
    by_cases hp : r.poisoned = true
    · rw [inspect_of_poisoned hr hp, inspect_of_poisoned (by simpa using hr) hp]
      exact ⟨rfl, rfl⟩
    · have hp : r.poisoned = false := by simpa using hp
      rw [inspect_of_not_poisoned hr hp, inspect_of_not_poisoned (by simpa using hr) hp]
      exact ⟨rfl, rfl⟩

theorem silent_unsubscribe (id : ObserverId) :
    (s.silent.unsubscribe key id).1 = (s.unsubscribe key id).1.silent := by
  cases hr : s.remote? key with
  | none => simp [unsubscribe, hr]
  | some r =>
    rw [unsubscribe_of_some hr, unsubscribe_of_some (by simpa using hr)]
    rfl

theorem silences_start : (s.start k).Silences (s.silent.start k) := by
  cases hd : s.device? k with
  | none =>
    rw [start_of_dangling hd, start_of_dangling (by simp [hd])]
    exact ⟨rfl, rfl⟩
  | some d =>
    have hname : (s.silent.inspect d.remote Remote.name).result =
        (s.inspect d.remote Remote.name).result := (silences_inspect d.remote Remote.name).result
    let s₁ := s.modifyDevice k ({ · with started := true })
    have hstart : ∀ d : Device,
        ({ d with started := true } : Device).silent = { d.silent with started := true } :=
      fun _ => rfl
    have hs₁ : s.silent.modifyDevice k ({ · with started := true }) = s₁.silent :=
      (silent_modifyDevice s k hstart).symm
    have hsubscribe : (s₁.subscribe d.remote (.device k)).Silences
        (s₁.silent.subscribe d.remote (.device k)) := silences_subscribe d.remote (.device k)
    simp only [start, device?_silent, hd, Option.map_some, Device.silent, hname]
    cases (s.inspect d.remote Remote.name).result with
    | error panic => exact ⟨rfl, rfl⟩
    | ok name =>
      by_cases hstarted : d.started = true
      · simp only [hstarted, if_true]
        exact ⟨rfl, rfl⟩
      · simp only [hstarted, Bool.false_eq_true, if_false, hs₁, hsubscribe.result]
        cases (s₁.subscribe d.remote (.device k)).result with
        | error panic => exact ⟨hsubscribe.site, rfl⟩
        | ok id =>
          by_cases hsub : d.subscription.isSome = true
          · simp only [hsub, if_true]
            refine ⟨?_, rfl⟩
            rw [hsubscribe.site]
            exact silent_unsubscribe ..
          · simp only [hsub, Bool.false_eq_true, if_false]
            have hset : ∀ d : Device, ({ d with subscription := some id } : Device).silent =
                { d.silent with subscription := some id } := fun _ => rfl
            refine ⟨?_, rfl⟩
            rw [hsubscribe.site]
            exact (silent_modifyDevice _ k hset).symm

end Silences

theorem setState_silent_congr {s s' : Site} (h : s.silent = s'.silent) (state : Connection) :
    (s.setState key state).site.silent = (s'.setState key state).site.silent := by
  have hs : (s.setState key state).Silences (s.silent.setState key state) :=
    silences_setState key state []
  have hs' : (s'.setState key state).Silences (s'.silent.setState key state) :=
    silences_setState key state []
  rw [← hs.site, ← hs'.site, h]

theorem start_silent_congr {s s' : Site} (h : s.silent = s'.silent) :
    (s.start k).site.silent = (s'.start k).site.silent := by
  rw [← (silences_start k).site, ← (silences_start k).site, h]

/-! ## Nothing goes wrong -/

/-- A site has a device, and nothing but devices observes its remotes, none of which is poisoned.
-/
structure Ready (s : Site) (k : DeviceKey) : Prop where
  sound : s.Sound
  device : ∃ d, s.device? k = some d
  unpoisoned : ∀ {key r}, s.remote? key = some r → r.poisoned = false
  devices : ∀ {key r e}, s.remote? key = some r → e ∈ r.observers → ∃ k', e.2 = .device k'

namespace Ready

variable {s key k} {r : Remote} {d : Device}

theorem of_eq {s' : Site} (h : s.Ready k) (hr : s'.remotes = s.remotes)
    (hd : s'.devices = s.devices) : s'.Ready k where
  sound := h.sound.of_eq hr hd
  device := by simpa [device?, hd] using h.device
  unpoisoned h' := h.unpoisoned (by simpa [remote?, hr] using h')
  devices h' := h.devices (by simpa [remote?, hr] using h')

/-- A new device on a new remote can be used. -/
theorem of_new {name : Text} {senders : List Sender} (hr : s.remotes = [{ name }])
    (hd : s.devices = [some { remote := 0, senders }]) : s.Ready 0 := by
  have hremote : ∀ {key r}, s.remote? key = some r → r = { name } := by
    intro key r hr'
    have hmem : r ∈ s.remotes := List.mem_of_getElem? hr'
    rw [hr] at hmem
    exact List.mem_singleton.1 hmem
  have hadded : ((({} : Site).addRemote name).1.addDevice 0 senders).1.Sound :=
    (sound_empty.addRemote name).addDevice rfl senders
  refine ⟨hadded.of_eq hr hd, ⟨{ remote := 0, senders }, by simp [device?, hd]⟩, ?_, ?_⟩
  · intro key r hr'
    rw [hremote hr']
  · intro key r e hr' hmem
    rw [hremote hr'] at hmem
    simp at hmem

theorem exists_remote? (h : s.Ready k) (hd : s.device? k = some d) :
    ∃ r, s.remote? d.remote = some r ∧ r.poisoned = false := by
  obtain ⟨r, hr, -⟩ := h.sound.attached hd
  exact ⟨r, hr, h.unpoisoned hr⟩

/-- No observer fails that is a device. -/
theorem breaksAt_eq_false (h : s.Ready k) (hr : s.remote? key = some r) (state : Connection) :
    r.observers.any (breaksAt state []) = false :=
  any_breaksAt_of_devices fun _ he => h.devices hr he

theorem setState (h : s.Ready k) (hr : s.remote? key = some r) (state : Connection) :
    (s.setState key state).result = .ok () ∧ (s.setState key state).site.Ready k := by
  have hp := h.unpoisoned hr
  by_cases hs : r.state = state
  · rw [setState_of_eq hr hp hs]
    exact ⟨rfl, h⟩
  · have he : StateChanged s key state [] r (s.setState key state) :=
      stateChanged_setState hr hp hs
    have hbreaks := h.breaksAt_eq_false hr state
    have hremote : ∀ {other r'}, (s.setState key state).site.remote? other = some r' →
        ∃ r₀, s.remote? other = some r₀ ∧ r'.observers = r₀.observers ∧ r'.poisoned = false := by
      intro other r' hr'
      rw [he.remote?, hbreaks] at hr'
      split at hr'
      · next heq =>
        obtain rfl := Option.some.inj hr'
        exact ⟨r, heq ▸ hr, rfl, rfl⟩
      · exact ⟨r', hr', rfl, h.unpoisoned hr'⟩
    refine ⟨by rw [he.result, hbreaks]; rfl, h.sound.setState key state [], ?_, ?_, ?_⟩
    · rw [← Option.isSome_iff_exists, h.sound.isSome_device?_setState,
        Option.isSome_iff_exists]
      exact h.device
    · intro other r' hr'
      obtain ⟨r₀, -, -, hp'⟩ := hremote hr'
      exact hp'
    · intro other r' e hr' hmem
      obtain ⟨r₀, hr₀, hobs, -⟩ := hremote hr'
      exact h.devices hr₀ (hobs ▸ hmem)

theorem start (h : s.Ready k) (hd : s.device? k = some d) (hr : s.remote? d.remote = some r) :
    (s.start k).result =
        (if d.started then .ok (.error (.alreadyStarted r.name)) else .ok (.ok ())) ∧
      (s.start k).site.Ready k := by
  have hp := h.unpoisoned hr
  by_cases hs : d.started = true
  · rw [start_of_started hd hr hp hs, if_pos hs]
    exact ⟨rfl, h⟩
  · have hs : d.started = false := by simpa using hs
    have he := started_start hd hr hp hs (h.sound.subscription_eq_none hd hs)
    have hremote : ∀ {other r'}, (s.start k).site.remote? other = some r' →
        ∃ r₀, s.remote? other = some r₀ ∧ r'.poisoned = false ∧
          ∀ e ∈ r'.observers, e ∈ r₀.observers ∨ e.2 = .device k := by
      intro other r' hr'
      rw [he.remote?] at hr'
      split at hr'
      · next heq =>
        obtain rfl := Option.some.inj hr'
        refine ⟨r, heq ▸ hr, hp, ?_⟩
        intro e hmem
        exact (Remote.mem_observers_gain.1 hmem).imp_right (congrArg Prod.snd)
      · exact ⟨r', hr', h.unpoisoned hr', fun e => Or.inl⟩
    refine ⟨by rw [he.result, hs]; rfl, h.sound.start k, ?_, ?_, ?_⟩
    · rw [← Option.isSome_iff_exists, h.sound.isSome_device?_start, Option.isSome_iff_exists]
      exact h.device
    · intro other r' hr'
      obtain ⟨r₀, -, hp', -⟩ := hremote hr'
      exact hp'
    · intro other r' e hr' hmem
      obtain ⟨r₀, hr₀, -, hobs⟩ := hremote hr'
      rcases hobs e hmem with hold | hnew
      · exact h.devices hr₀ hold
      · exact ⟨k, hnew⟩

end Ready

end Site

namespace Console

variable {s : Site} {k : DeviceKey}

/-! ## Commands -/

theorem silences_showStatus (s : Site) (k : DeviceKey) :
    (showStatus s k).Silences (showStatus s.silent k) := by
  cases hd : s.device? k with
  | none =>
    simp only [showStatus, Site.device?_silent, hd]
    exact ⟨rfl, rfl⟩
  | some d =>
    simp only [showStatus, Site.device?_silent, hd]
    exact Site.silences_inspect d.remote _

theorem silences_changeState (s : Site) (k : DeviceKey) (state : Connection) :
    (changeState s k state).Silences (changeState s.silent k state) := by
  cases hd : s.device? k with
  | none =>
    simp only [changeState, Site.device?_silent, hd]
    exact ⟨rfl, rfl⟩
  | some d =>
    have hset : (s.setState d.remote state).Silences (s.silent.setState d.remote state) :=
      Site.silences_setState d.remote state []
    simp only [changeState, Site.device?_silent, hd, Option.map_some, Device.silent, hset.result,
      hset.site]
    cases (s.setState d.remote state).result with
    | error panic => exact ⟨rfl, rfl⟩
    | ok _ =>
      have hshow := silences_showStatus (s.setState d.remote state).site k
      exact ⟨hshow.site, hshow.result⟩

theorem silences_startDevice (s : Site) (k : DeviceKey) :
    (startDevice s k).Silences (startDevice s.silent k) := by
  have hstart : (s.start k).Silences (s.silent.start k) := Site.silences_start k
  simp only [startDevice, hstart.result, hstart.site]
  cases (s.start k).result with
  | error panic => exact ⟨rfl, rfl⟩
  | ok result =>
    cases result with
    | error refusal => exact ⟨rfl, rfl⟩
    | ok _ =>
      have hshow := silences_showStatus (s.start k).site k
      exact ⟨hshow.site, hshow.result⟩

/-- A command is carried out in the same way without channels. -/
theorem silences_execute (s : Site) (k : DeviceKey) (command : Command) :
    (execute s k command).Silences (execute s.silent k command) := by
  cases command with
  | connect => exact silences_changeState s k .connected
  | disconnect => exact silences_changeState s k .disconnected
  | start => exact silences_startDevice s k
  | status => exact silences_showStatus s k
  | lookup | parse | help | quit => exact ⟨rfl, rfl⟩

theorem showStatus_of_ready (h : s.Ready k) :
    ∃ t, showStatus s k = ⟨s, [], .ok (.text t)⟩ := by
  obtain ⟨d, hd⟩ := h.device
  obtain ⟨r, hr, hp⟩ := h.exists_remote? hd
  exact ⟨statusText d.status d.model r.name r.state, by
    simp only [showStatus, hd]
    exact Site.inspect_of_not_poisoned hr hp⟩

theorem changeState_of_ready (h : s.Ready k) (state : Connection) :
    ∃ t, (changeState s k state).result = .ok (.text t) ∧
      (changeState s k state).site.Ready k := by
  obtain ⟨d, hd⟩ := h.device
  obtain ⟨r, hr, -⟩ := h.exists_remote? hd
  obtain ⟨hresult, hready⟩ := h.setState hr state
  obtain ⟨t, ht⟩ := showStatus_of_ready hready
  refine ⟨t, ?_⟩
  simp only [changeState, hd, hresult, ht]
  exact ⟨trivial, hready⟩

theorem startDevice_of_ready (h : s.Ready k) :
    ∃ t, (startDevice s k).result = .ok (.text t) ∧ (startDevice s k).site.Ready k := by
  obtain ⟨d, hd⟩ := h.device
  obtain ⟨r, hr, -⟩ := h.exists_remote? hd
  obtain ⟨hresult, hready⟩ := h.start hd hr
  by_cases hs : d.started = true
  · refine ⟨errorText (StartError.alreadyStarted r.name).message, ?_⟩
    simp only [startDevice, hresult, hs, if_true]
    exact ⟨trivial, hready⟩
  · obtain ⟨t, ht⟩ := showStatus_of_ready hready
    refine ⟨t, ?_⟩
    simp only [startDevice, hresult, hs, Bool.false_eq_true, if_false, ht]
    exact ⟨trivial, hready⟩

/-- Every command but the one to quit is answered with a text. -/
theorem execute_of_ready (h : s.Ready k) {command : Command} (hquit : command ≠ .quit) :
    ∃ t, (execute s k command).result = .ok (.text t) ∧ (execute s k command).site.Ready k := by
  cases command with
  | connect => exact changeState_of_ready h .connected
  | disconnect => exact changeState_of_ready h .disconnected
  | start => exact startDevice_of_ready h
  | status =>
    obtain ⟨t, ht⟩ := showStatus_of_ready h
    exact ⟨t, by simp only [execute, ht], by simpa only [execute, ht] using h⟩
  | lookup name => exact ⟨lookupText name, rfl, h⟩
  | parse text => exact ⟨parseText text, rfl, h⟩
  | help => exact ⟨helpText, rfl, h⟩
  | quit => exact absurd rfl hquit

end Console

end DeviceTwin
