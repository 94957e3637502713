import DeviceTwin.Proofs.Site.Dispatch
import DeviceTwin.Site.Operations

/-!
# What operations bring about

For each operation on a site this module says, case by case, which observers are called and what
becomes of every remote and of every device.  An operation that is refused is given as an equation,
and so is one whose effect can be written down in a line; a change of state and a first start, which
dispatch to devices, are described by the structures `StateChanged` and `Started`.
-/

namespace DeviceTwin

/-- The remote with one observer more. -/
def Remote.gain (r : Remote) (observer : Observer) : Remote :=
  { r with
    observers := r.observers ++ [(r.nextObserver, observer)]
    nextObserver := r.nextObserver + 1 }

/-- The remote without an observer. -/
def Remote.lose (r : Remote) (id : ObserverId) : Remote :=
  { r with observers := r.observers.filter (·.1 != id) }

namespace Site

variable {s : Site} {key : RemoteKey} {r : Remote}

/-! ## New things -/

theorem remote?_addRemote (s : Site) (name : Text) (other : RemoteKey) :
    (s.addRemote name).1.remote? other =
      if other = s.remotes.length then some { name } else s.remote? other := by
  rcases Nat.lt_trichotomy other s.remotes.length with h | h | h
  · simp [addRemote, remote?, List.getElem?_append_left h, Nat.ne_of_lt h]
  · simp [addRemote, remote?, h]
  · have hge : (s.remotes ++ [({ name } : Remote)]).length ≤ other := by
      simpa using Nat.succ_le_of_lt h
    simp only [addRemote, remote?, Nat.ne_of_gt h, if_false, List.getElem?_eq_none hge,
      List.getElem?_eq_none (Nat.le_of_lt h)]

@[simp] theorem device?_addRemote (s : Site) (name : Text) (other : DeviceKey) :
    (s.addRemote name).1.device? other = s.device? other := rfl

@[simp] theorem remotes_addSenders (s : Site) (keys : List ChannelKey) :
    (s.addSenders keys).1.remotes = s.remotes := by
  induction keys generalizing s with
  | nil => rfl
  | cons key rest ih =>
    simp only [addSenders]
    split <;> exact ih _

@[simp] theorem devices_addSenders (s : Site) (keys : List ChannelKey) :
    (s.addSenders keys).1.devices = s.devices := by
  induction keys generalizing s with
  | nil => rfl
  | cons key rest ih =>
    simp only [addSenders]
    split <;> exact ih _

@[simp] theorem remote?_addDevice (s : Site) (remote : RemoteKey) (senders : List Sender)
    (other : RemoteKey) : (s.addDevice remote senders).1.remote? other = s.remote? other := rfl

theorem device?_addDevice (s : Site) (remote : RemoteKey) (senders : List Sender)
    (other : DeviceKey) : (s.addDevice remote senders).1.device? other =
      if other = s.devices.length then some { remote, senders } else s.device? other := by
  rcases Nat.lt_trichotomy other s.devices.length with h | h | h
  · simp [addDevice, device?, List.getElem?_append_left h, Nat.ne_of_lt h]
  · simp [addDevice, device?, h]
  · have hge : (s.devices ++ [some ({ remote, senders } : Device)]).length ≤ other := by
      simpa using Nat.succ_le_of_lt h
    simp only [addDevice, device?, Nat.ne_of_gt h, if_false, List.getElem?_eq_none hge,
      List.getElem?_eq_none (Nat.le_of_lt h)]

theorem device?_length (s : Site) : s.device? s.devices.length = none := by
  simp [device?]

/-! ## Asking a remote -/

theorem inspect_of_not_poisoned {α : Type} {f : Remote → α} (hr : s.remote? key = some r)
    (hp : r.poisoned = false) : s.inspect key f = ⟨s, [], .ok (f r)⟩ := by
  simp [inspect, hr, hp]

theorem inspect_of_poisoned {α : Type} {f : Remote → α} (hr : s.remote? key = some r)
    (hp : r.poisoned = true) : s.inspect key f = ⟨s, [], .error .poisonedRemote⟩ := by
  simp [inspect, hr, hp]

theorem site_inspect {α : Type} (s : Site) (key : RemoteKey) (f : Remote → α) :
    (s.inspect key f).site = s := by
  unfold inspect
  split
  · rfl
  · split <;> rfl

theorem trace_inspect {α : Type} (s : Site) (key : RemoteKey) (f : Remote → α) :
    (s.inspect key f).trace = [] := by
  unfold inspect
  split
  · rfl
  · split <;> rfl

/-! ## Changing the state of a remote -/

section SetState

variable {state : Connection} {upset : List ObserverId}

/-- What a change of state brings about. -/
structure StateChanged (s : Site) (key : RemoteKey) (state : Connection)
    (upset : List ObserverId) (r : Remote) (e : Effect Unit) : Prop where
  calls : e.trace.calls =
    (told state upset r.observers).map fun x => ⟨key, x.1, x.2, state⟩
  remote? : ∀ other, e.site.remote? other =
    if key = other then some { r with
      state, poisoned := r.observers.any (breaksAt state upset) }
    else s.remote? other
  /-- A device that is called is brought in line. -/
  device?_of_told : ∀ k d id, s.device? k = some d →
    (id, .device k) ∈ told state upset r.observers →
    ∃ d', e.site.device? k = some d' ∧ d.Told state d'
  device?_of_not_told : ∀ k, (∀ id, (id, .device k) ∉ told state upset r.observers) →
    e.site.device? k = s.device? k
  result : e.result =
    if r.observers.any (breaksAt state upset) then .error .observerFailed else .ok ()

theorem setState_of_dangling (hr : s.remote? key = none) :
    s.setState key state upset = ⟨s, [], .error .dangling⟩ := by
  simp [setState, hr]

theorem setState_of_poisoned (hr : s.remote? key = some r) (hp : r.poisoned = true) :
    s.setState key state upset = ⟨s, [], .error .poisonedRemote⟩ := by
  simp [setState, hr, hp]

theorem setState_of_eq (hr : s.remote? key = some r) (hp : r.poisoned = false)
    (hs : r.state = state) :
    s.setState key state upset = ⟨s, [.logged (.remoteUnchanged r.name state)], .ok ()⟩ := by
  simp [setState, hr, hp, hs]

theorem stateChanged_setState (hr : s.remote? key = some r) (hp : r.poisoned = false)
    (hs : r.state ≠ state) :
    StateChanged s key state upset r (s.setState key state upset) := by
  -- The dispatch starts from the site in which the remote already has its new state.
  let s₁ := s.modifyRemote key ({ · with state })
  let c := s₁.callAll key state upset r.observers
  have hremote : ∀ other, c.site.remote? other =
      if key = other then some { r with state } else s.remote? other := by
    intro other
    have : c.site.remote? other = s₁.remote? other := by simp [c, remote?]
    rw [this, remote?_modifyRemote]
    by_cases h : key = other
    · subst h
      simp [hr]
    · simp [h]
  have hfailed : c.failed = r.observers.any (breaksAt state upset) := by simp [c]
  have hcalls : c.trace.calls =
      (told state upset r.observers).map fun x => ⟨key, x.1, x.2, state⟩ := by simp [c]
  have hsome : ∀ k d id, s.device? k = some d →
      (id, .device k) ∈ told state upset r.observers →
        ∃ d', c.site.device? k = some d' ∧ d.Told state d' := by
    intro k d id hd hid
    exact exists_device?_callAll_of_told s₁ key state upset r.observers
      (by simpa [s₁] using hd) hid
  have hsame : ∀ k, (∀ id, (id, .device k) ∉ told state upset r.observers) →
      c.site.device? k = s.device? k := by
    intro k hk
    rw [device?_callAll_of_not_told s₁ key state upset r.observers hk]
    simp [s₁]
  have hunfold : s.setState key state upset =
      if c.failed then
        ⟨c.site.modifyRemote key ({ · with poisoned := true }),
          .logged (.remoteChanged r.name state) :: c.trace, .error .observerFailed⟩
      else ⟨c.site, .logged (.remoteChanged r.name state) :: c.trace, .ok ()⟩ := by
    simp only [setState, hr, hp, hs, Bool.false_eq_true, if_false]
    rfl
  rw [hunfold, hfailed]
  by_cases hany : r.observers.any (breaksAt state upset) = true
  · simp only [hany, if_true]
    refine ⟨by simpa using hcalls, ?_, ?_, ?_, by simp [hany]⟩
    · intro other
      rw [remote?_modifyRemote, hremote]
      by_cases h : key = other <;> simp [h, hany]
    · simpa using hsome
    · simpa using hsame
  · have hnone : r.observers.any (breaksAt state upset) = false := by simpa using hany
    simp only [hnone, Bool.false_eq_true, if_false]
    refine ⟨by simpa using hcalls, ?_, hsome, hsame, by simp [hnone]⟩
    intro other
    rw [hremote, hnone]
    by_cases h : key = other <;> simp [h, hp]

/-- Setting the state of a remote is a change, or nothing happens. -/
theorem setState_cases (s : Site) (key : RemoteKey) (state : Connection)
    (upset : List ObserverId) :
    ((s.setState key state upset).site = s ∧ (s.setState key state upset).trace.calls = [] ∧
        (s.setState key state upset).result ≠ .error .observerFailed) ∨
      ∃ r, s.remote? key = some r ∧ r.poisoned = false ∧ r.state ≠ state ∧
        StateChanged s key state upset r (s.setState key state upset) := by
  cases hr : s.remote? key with
  | none =>
    rw [setState_of_dangling hr]
    exact Or.inl ⟨rfl, rfl, by simp⟩
  | some r =>
    by_cases hp : r.poisoned = true
    · rw [setState_of_poisoned hr hp]
      exact Or.inl ⟨rfl, rfl, by simp⟩
    · have hp : r.poisoned = false := by simpa using hp
      by_cases hs : r.state = state
      · rw [setState_of_eq hr hp hs]
        exact Or.inl ⟨rfl, rfl, by simp⟩
      · exact Or.inr ⟨r, rfl, hp, hs, stateChanged_setState hr hp hs⟩

end SetState

/-! ## Observers that come and go -/

section Subscribe

variable {observer : Observer} {label : Text} {failsOn : Option Connection}

theorem subscribe_of_dangling (hr : s.remote? key = none) :
    s.subscribe key observer = ⟨s, [], .error .dangling⟩ := by
  simp [subscribe, hr]

theorem subscribe_of_poisoned (hr : s.remote? key = some r) (hp : r.poisoned = true) :
    s.subscribe key observer = ⟨s, [], .error .poisonedRemote⟩ := by
  simp [subscribe, hr, hp]

/-- A recorder that fails on the sample is not added, and poisons the remote. -/
theorem subscribe_recorder_of_fails (hr : s.remote? key = some r) (hp : r.poisoned = false)
    (hf : failsOn = some r.state) :
    s.subscribe key (.recorder label failsOn) =
      ⟨s.modifyRemote key ({ · with poisoned := true }),
        [.called key r.nextObserver (.recorder label failsOn) r.state],
        .error .observerFailed⟩ := by
  simp [subscribe, hr, hp, call, Observer.fails, hf]

theorem subscribe_recorder (hr : s.remote? key = some r) (hp : r.poisoned = false)
    (hf : failsOn ≠ some r.state) :
    s.subscribe key (.recorder label failsOn) =
      ⟨s.modifyRemote key (·.gain (.recorder label failsOn)),
        [.called key r.nextObserver (.recorder label failsOn) r.state,
          .logged (.observerGained r.name r.nextObserver)],
        .ok r.nextObserver⟩ := by
  simp [subscribe, hr, hp, call, Observer.fails, hf, Remote.gain]

/-- A recorder that is added gets the next number. -/
theorem subscribe_recorder_eq_ok {id : ObserverId}
    (h : (s.subscribe key (.recorder label failsOn)).result = .ok id) :
    ∃ r, s.remote? key = some r ∧ r.poisoned = false ∧ id = r.nextObserver ∧
      (s.subscribe key (.recorder label failsOn)).site =
        s.modifyRemote key (·.gain (.recorder label failsOn)) ∧
      (s.subscribe key (.recorder label failsOn)).trace.calls =
        [⟨key, r.nextObserver, .recorder label failsOn, r.state⟩] := by
  cases hr : s.remote? key with
  | none => simp [subscribe_of_dangling hr] at h
  | some r =>
    by_cases hp : r.poisoned = true
    · simp [subscribe_of_poisoned hr hp] at h
    · have hp : r.poisoned = false := by simpa using hp
      by_cases hf : failsOn = some r.state
      · simp [subscribe_recorder_of_fails hr hp hf] at h
      · rw [subscribe_recorder hr hp hf] at h ⊢
        exact ⟨r, rfl, hp, (Except.ok.inj h).symm, rfl, rfl⟩

/-- A recorder that is not added changes nothing, or has poisoned the remote. -/
theorem subscribe_recorder_eq_error {panic : Panic}
    (h : (s.subscribe key (.recorder label failsOn)).result = .error panic) :
    ((s.subscribe key (.recorder label failsOn)).site = s ∧
        (s.subscribe key (.recorder label failsOn)).trace.calls = [] ∧
        panic ≠ .observerFailed) ∨
      ∃ r, s.remote? key = some r ∧ r.poisoned = false ∧ failsOn = some r.state ∧
        panic = .observerFailed ∧
        (s.subscribe key (.recorder label failsOn)).site =
          s.modifyRemote key ({ · with poisoned := true }) ∧
        (s.subscribe key (.recorder label failsOn)).trace.calls =
          [⟨key, r.nextObserver, .recorder label failsOn, r.state⟩] := by
  cases hr : s.remote? key with
  | none =>
    rw [subscribe_of_dangling hr] at h ⊢
    cases h
    exact Or.inl ⟨rfl, rfl, by simp⟩
  | some r =>
    by_cases hp : r.poisoned = true
    · rw [subscribe_of_poisoned hr hp] at h ⊢
      cases h
      exact Or.inl ⟨rfl, rfl, by simp⟩
    · have hp : r.poisoned = false := by simpa using hp
      by_cases hf : failsOn = some r.state
      · rw [subscribe_recorder_of_fails hr hp hf] at h ⊢
        exact Or.inr ⟨r, rfl, hp, hf, (Except.error.inj h).symm, rfl, rfl⟩
      · simp [subscribe_recorder hr hp hf] at h

theorem unsubscribe_of_some (hr : s.remote? key = some r) (id : ObserverId) :
    s.unsubscribe key id =
      (s.modifyRemote key (·.lose id), [.logged (.observerLost r.name id)]) := by
  simp [unsubscribe, hr, Remote.lose]

theorem remote?_unsubscribe (s : Site) (key : RemoteKey) (id : ObserverId) (other : RemoteKey) :
    (s.unsubscribe key id).1.remote? other =
      if key = other then (s.remote? other).map (·.lose id) else s.remote? other := by
  cases hr : s.remote? key with
  | none =>
    by_cases h : key = other
    · subst h
      simp [unsubscribe, hr]
    · simp [unsubscribe, hr, h]
  | some r => simp [unsubscribe_of_some hr]

@[simp] theorem devices_unsubscribe (s : Site) (key : RemoteKey) (id : ObserverId) :
    (s.unsubscribe key id).1.devices = s.devices := by
  unfold unsubscribe
  split <;> rfl

@[simp] theorem device?_unsubscribe (s : Site) (key : RemoteKey) (id : ObserverId)
    (other : DeviceKey) : (s.unsubscribe key id).1.device? other = s.device? other := by
  simp [device?]

@[simp] theorem calls_unsubscribe (s : Site) (key : RemoteKey) (id : ObserverId) :
    (s.unsubscribe key id).2.calls = [] := by
  cases hr : s.remote? key with
  | none => simp [unsubscribe, hr]
  | some r => simp [unsubscribe_of_some hr]

end Subscribe

/-! ## Starting a device -/

section Start

variable {k : DeviceKey} {d : Device}

theorem start_of_dangling (hd : s.device? k = none) :
    s.start k = ⟨s, [], .error .dangling⟩ := by
  simp [start, hd]

theorem start_of_poisoned (hd : s.device? k = some d) (hr : s.remote? d.remote = some r)
    (hp : r.poisoned = true) : s.start k = ⟨s, [], .error .poisonedRemote⟩ := by
  simp [start, hd, inspect_of_poisoned hr hp]

theorem start_of_started (hd : s.device? k = some d) (hr : s.remote? d.remote = some r)
    (hp : r.poisoned = false) (hs : d.started = true) :
    s.start k = ⟨s, [], .ok (.error (.alreadyStarted r.name))⟩ := by
  simp [start, hd, inspect_of_not_poisoned hr hp, hs]

/-- What the first start of a device brings about. -/
structure Started (s : Site) (k : DeviceKey) (d : Device) (r : Remote)
    (e : Effect (Except StartError Unit)) : Prop where
  calls : e.trace.calls = [⟨d.remote, r.nextObserver, .device k, r.state⟩]
  remote? : ∀ other, e.site.remote? other =
    if d.remote = other then some (r.gain (.device k)) else s.remote? other
  device? : ∃ d', e.site.device? k = some
      { d' with subscription := some r.nextObserver } ∧
    ({ d with started := true } : Device).Told r.state d'
  device?_of_ne : ∀ k', k' ≠ k → e.site.device? k' = s.device? k'
  result : e.result = .ok (.ok ())

/-- The site in which a device is told the state of its remote when it is started. -/
def startCall (s : Site) (k : DeviceKey) (d : Device) (r : Remote) : Called :=
  (s.modifyDevice k ({ · with started := true })).call d.remote r.nextObserver (.device k) r.state

theorem start_of_unstarted (hd : s.device? k = some d) (hr : s.remote? d.remote = some r)
    (hp : r.poisoned = false) (hs : d.started = false) (hsub : d.subscription = none) :
    s.start k =
      ⟨((s.startCall k d r).site.modifyRemote d.remote (·.gain (.device k))).modifyDevice k
          ({ · with subscription := some r.nextObserver }),
        .logged (.deviceStarting r.name) ::
          ((s.startCall k d r).trace ++ [.logged (.observerGained r.name r.nextObserver)]),
        .ok (.ok ())⟩ := by
  have hr₁ : (s.modifyDevice k ({ · with started := true })).remote? d.remote = some r := hr
  have hfailed : (s.startCall k d r).failed = false := by simp [startCall, Observer.fails]
  have hsubscribe : (s.modifyDevice k ({ · with started := true })).subscribe d.remote (.device k) =
      ⟨(s.startCall k d r).site.modifyRemote d.remote (·.gain (.device k)),
        (s.startCall k d r).trace ++ [.logged (.observerGained r.name r.nextObserver)],
        .ok r.nextObserver⟩ := by
    simp only [subscribe, hr₁, hp, Bool.false_eq_true, if_false]
    change (if (s.startCall k d r).failed then _ else _) = _
    rw [hfailed]
    rfl
  simp [start, hd, inspect_of_not_poisoned hr hp, hs, hsubscribe, hsub]

theorem started_start (hd : s.device? k = some d) (hr : s.remote? d.remote = some r)
    (hp : r.poisoned = false) (hs : d.started = false) (hsub : d.subscription = none) :
    Started s k d r (s.start k) := by
  let s₁ := s.modifyDevice k ({ · with started := true })
  have hd₁ : s₁.device? k = some { d with started := true } := by simp [s₁, hd]
  obtain ⟨d', hd', htold⟩ : ∃ d', (s.startCall k d r).site.device? k = some d' ∧
      ({ d with started := true } : Device).Told r.state d' :=
    exists_device?_call d.remote r.state r.nextObserver false hd₁
  have hcalls : (s.startCall k d r).trace.calls =
      [⟨d.remote, r.nextObserver, .device k, r.state⟩] := by simp [startCall]
  have hremotes : (s.startCall k d r).site.remotes = s.remotes := by simp [startCall, modifyDevice]
  rw [start_of_unstarted hd hr hp hs hsub]
  refine ⟨by simp [hcalls], ?_, ⟨d', by simp [hd'], htold⟩, ?_, rfl⟩
  · intro other
    have hc : (s.startCall k d r).site.remote? other = s.remote? other := by
      rw [remote?, hremotes, remote?]
    rw [remote?_modifyDevice, remote?_modifyRemote, hc]
    by_cases h : d.remote = other
    · subst h
      simp [hr]
    · simp [h]
  · intro k' hk'
    have hne : Observer.device k ≠ .device k' := fun heq => hk' (Observer.device.inj heq).symm
    have hc : (s.startCall k d r).site.device? k' = s₁.device? k' :=
      device?_call_of_ne _ _ _ _ _ _ hne
    simp [hc, s₁, Ne.symm hk']

end Start

/-! ## Dropping a device -/

@[simp] theorem remotes_dropSenders (s : Site) (senders : List Sender) :
    (s.dropSenders senders).remotes = s.remotes := by
  induction senders generalizing s with
  | nil => rfl
  | cons sender rest ih => rw [dropSenders, ih]; rfl

@[simp] theorem devices_dropSenders (s : Site) (senders : List Sender) :
    (s.dropSenders senders).devices = s.devices := by
  induction senders generalizing s with
  | nil => rfl
  | cons sender rest ih => rw [dropSenders, ih]; rfl

section DropDevice

variable {k : DeviceKey} {d : Device}

theorem remote?_dropDevice (hd : s.device? k = some d) (other : RemoteKey) :
    (s.dropDevice k).1.remote? other =
      match d.subscription with
      | some id =>
        if d.remote = other then (s.remote? other).map (·.lose id) else s.remote? other
      | none => s.remote? other := by
  cases hsub : d.subscription with
  | none => simp [dropDevice, hd, hsub, remote?]
  | some id =>
    have := remote?_unsubscribe s d.remote id other
    simpa [dropDevice, hd, hsub, remote?] using this

theorem device?_dropDevice (hd : s.device? k = some d) (other : DeviceKey) :
    (s.dropDevice k).1.device? other = if k = other then none else s.device? other := by
  have hdevices : (s.dropDevice k).1.devices = s.devices.set k none := by
    cases hsub : d.subscription <;> simp [dropDevice, hd, hsub]
  have hlt : k < s.devices.length := lt_length_of_device? hd
  by_cases h : k = other
  · subst h
    simp [device?, hdevices, hlt]
  · simp [device?, hdevices, h]

theorem calls_dropDevice (s : Site) (k : DeviceKey) : (s.dropDevice k).2.calls = [] := by
  cases hd : s.device? k with
  | none => simp [dropDevice, hd]
  | some d => cases hsub : d.subscription <;> simp [dropDevice, hd, hsub]

end DropDevice

/-! ## How many remotes and devices there are -/

/-- How many remotes and how many devices have been made. -/
def size (s : Site) : Nat × Nat := (s.remotes.length, s.devices.length)

@[simp] theorem size_modifyRemote (s : Site) (key : RemoteKey) (f : Remote → Remote) :
    (s.modifyRemote key f).size = s.size := by
  simp [size, modifyRemote]

@[simp] theorem size_modifyDevice (s : Site) (k : DeviceKey) (f : Device → Device) :
    (s.modifyDevice k f).size = s.size := by
  simp [size, modifyDevice]

@[simp] theorem size_call (s : Site) (remote : RemoteKey) (id : ObserverId) (observer : Observer)
    (state : Connection) (upset : Bool) :
    (s.call remote id observer state upset).site.size = s.size := by
  simp [size]

@[simp] theorem size_callAll (s : Site) (remote : RemoteKey) (state : Connection)
    (upset : List ObserverId) (observers : List (ObserverId × Observer)) :
    (s.callAll remote state upset observers).site.size = s.size := by
  simp [size]

@[simp] theorem size_setState (s : Site) (key : RemoteKey) (state : Connection)
    (upset : List ObserverId) : (s.setState key state upset).site.size = s.size := by
  unfold setState
  split
  · rfl
  · split
    · rfl
    · split
      · rfl
      · dsimp only
        split <;> simp

@[simp] theorem size_subscribe (s : Site) (key : RemoteKey) (observer : Observer) :
    (s.subscribe key observer).site.size = s.size := by
  unfold subscribe
  split
  · rfl
  · split
    · rfl
    · dsimp only
      split <;> simp

@[simp] theorem size_unsubscribe (s : Site) (key : RemoteKey) (id : ObserverId) :
    (s.unsubscribe key id).1.size = s.size := by
  unfold unsubscribe
  split <;> simp

@[simp] theorem size_start (s : Site) (k : DeviceKey) : (s.start k).site.size = s.size := by
  unfold start
  split
  · rfl
  · split
    · rfl
    · split
      · rfl
      · dsimp only
        split
        · simp
        · split <;> simp

@[simp] theorem size_dropDevice (s : Site) (k : DeviceKey) :
    (s.dropDevice k).1.size = s.size := by
  cases hd : s.device? k with
  | none => simp [dropDevice, hd]
  | some d =>
    cases hsub : d.subscription with
    | none => simp [dropDevice, hd, hsub, size]
    | some id =>
      have hremotes := congrArg Prod.fst (size_unsubscribe s d.remote id)
      simpa [dropDevice, hd, hsub, size] using hremotes

end Site

end DeviceTwin
