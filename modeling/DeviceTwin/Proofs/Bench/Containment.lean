import DeviceTwin.Proofs.Bench.Notification

/-!
# Failures are contained

An observer may fail in two places: while a change of its remote is dispatched, or on the sample
that it is told before it is added.  The main statement, `failure_contained`, says what each of the
two leaves behind.  In the first case the remote has its new state, the observers before the one
that failed have been told, and those behind it have not; in the second case nothing is added.
Either way the remote is poisoned from then on.

What a poisoned remote is good for is the same in every run that follows, `OutOfUse`: whatever uses
it panics and changes nothing, but whatever is held of it can be given up.
-/

namespace DeviceTwin

theorem Named.any_of_get? {α : Type} {n : Named α} {name : Text} {x : α} {p : α → Bool}
    (hname : n.get? name = some x) (hx : p x = true) : n.any p = true := by
  obtain ⟨e, he, rfl⟩ := Option.map_eq_some_iff.1 hname
  exact List.any_eq_true.2 ⟨e, List.mem_of_find?_eq_some he, hx⟩

namespace Bench

/-- An observer fails when an action calls it. -/
inductive Failure (b : Bench) (key : RemoteKey) (r : Remote) : Action → Prop where
  /-- A remote changes, and one of its observers fails. -/
  | change (holder : Holder) (state : Connection) (upset : List ObserverId)
      (hkey : b.remoteKey? holder = some key) (hr : b.site.remote? key = some r)
      (hp : r.poisoned = false) (hs : r.state ≠ state)
      (hfails : r.observers.any (breaksAt state upset) = true) :
      Failure b key r (.setState holder state upset)
  /-- A recorder fails on its sample. -/
  | sample (name : Text) (holder : Holder) (failsOn : Option Connection)
      (hkey : b.remoteKey? holder = some key) (hr : b.site.remote? key = some r)
      (hp : r.poisoned = false) (hfails : failsOn = some r.state) :
      Failure b key r (.subscribe name holder failsOn)

/-- What is left behind by a change in which the observer `e` fails. -/
structure Interrupted (b : Bench) (a : Action) (key : RemoteKey) (r : Remote) (state : Connection)
    (called : List (ObserverId × Observer)) (e : ObserverId × Observer)
    (missed : List (ObserverId × Observer)) : Prop where
  answer : (b.step a).2.answer = .panicked .observerFailed
  names : (b.step a).1 = { b with site := (b.step a).1.site }
  observers : r.observers = called ++ e :: missed
  ordered : r.observers.Pairwise (·.1 < ·.1)
  remote : (b.step a).1.site.remote? key = some { r with state, poisoned := true }
  others : ∀ other, key ≠ other → (b.step a).1.site.remote? other = b.site.remote? other
  /-- Nobody is called but the observers up to the one that fails. -/
  calls : (b.step a).2.trace.calls = (called ++ [e]).map fun x => ⟨key, x.1, x.2, state⟩
  /-- Devices that come before are brought in line. -/
  told : ∀ k id, (id, .device k) ∈ called → ∃ d d', b.site.device? k = some d ∧
    (b.step a).1.site.device? k = some d' ∧ d.Told state d'
  /-- Devices that come behind are left alone. -/
  missed : ∀ k id, (id, .device k) ∈ missed →
    (b.step a).1.site.device? k = b.site.device? k
  /-- So are devices that do not observe the remote. -/
  unobserving : ∀ k, (∀ id, (id, .device k) ∉ r.observers) →
    (b.step a).1.site.device? k = b.site.device? k

/-- What an observer leaves behind that fails. -/
inductive Contained (b : Bench) (key : RemoteKey) (r : Remote) : Action → Prop where
  | change (holder : Holder) (state : Connection) (upset : List ObserverId)
      (called : List (ObserverId × Observer)) (e : ObserverId × Observer)
      (missed : List (ObserverId × Observer))
      (hcalled : ∀ x ∈ called, breaksAt state upset x = false)
      (he : breaksAt state upset e = true)
      (h : Interrupted b (.setState holder state upset) key r state called e missed) :
      Contained b key r (.setState holder state upset)
  /-- Nothing changes but that the remote is poisoned. -/
  | sample (name : Text) (holder : Holder) (failsOn : Option Connection)
      (h : b.step (.subscribe name holder failsOn) =
        ({ b with site := b.site.modifyRemote key ({ · with poisoned := true }) },
          { answer := .panicked .observerFailed
            trace := [.called key r.nextObserver (.recorder name failsOn) r.state] })) :
      Contained b key r (.subscribe name holder failsOn)

/-- What dropping a device does. -/
structure DropsDevice (b : Bench) (name : Text) (k : DeviceKey) (d : Device) : Prop where
  answer : (b.step (.dropDevice name)).2.answer = .done
  names : (b.step (.dropDevice name)).1 =
    { b with site := (b.step (.dropDevice name)).1.site, devices := b.devices.erase name }
  calls : (b.step (.dropDevice name)).2.trace.calls = []
  device? : ∀ other, (b.step (.dropDevice name)).1.site.device? other =
    if k = other then none else b.site.device? other
  /-- The observer that the device was leaves the remote. -/
  remote? : ∀ other, (b.step (.dropDevice name)).1.site.remote? other =
    match d.subscription with
    | some id =>
      if d.remote = other then (b.site.remote? other).map (·.lose id) else b.site.remote? other
    | none => b.site.remote? other

/-- A remote is out of use: whatever uses it panics and changes nothing, and whatever gives
something up still works. -/
structure OutOfUse (b : Bench) (key : RemoteKey) (r : Remote) : Prop where
  remote : b.site.remote? key = some r
  poisoned : r.poisoned = true
  ask : ∀ {holder}, b.remoteKey? holder = some key → ∀ query,
    b.step (.askRemote holder query) = (b, { answer := .panicked .poisonedRemote })
  setState : ∀ {holder}, b.remoteKey? holder = some key → ∀ state upset,
    b.step (.setState holder state upset) = (b, { answer := .panicked .poisonedRemote })
  subscribe : ∀ {holder}, b.remoteKey? holder = some key → ∀ name failsOn,
    b.step (.subscribe name holder failsOn) = (b, { answer := .panicked .poisonedRemote })
  start : ∀ {name k d}, b.devices.get? name = some k → b.site.device? k = some d →
    d.remote = key → b.step (.start name) = (b, { answer := .panicked .poisonedRemote })
  clone : ∀ {holder}, b.remoteKey? holder = some key → ∀ handle,
    b.step (.cloneRemote handle holder) =
      ({ b with handles := b.handles.put handle key }, { answer := .done })
  dropHandle : ∀ handle, b.step (.dropRemote handle) =
    ({ b with handles := b.handles.erase handle }, { answer := .done })
  held : ∀ {holder}, b.remoteKey? holder = some key → b.isHeld key = true
  /-- The observer of a subscription leaves the remote, if that still exists. -/
  unsubscribe : ∀ {name id}, b.subscriptions.get? name = some ⟨key, id⟩ →
    b.step (.unsubscribe name) =
      if b.isHeld key then
        ({ b with
            site := b.site.modifyRemote key (·.lose id)
            subscriptions := b.subscriptions.erase name },
          { answer := .done, trace := [.logged (.observerLost r.name id)] })
      else ({ b with subscriptions := b.subscriptions.erase name }, { answer := .done })
  dropDevice : ∀ {name k d}, b.devices.get? name = some k → b.site.device? k = some d →
    d.remote = key → DropsDevice b name k d

variable {b : Bench} {key : RemoteKey} {r : Remote} {a : Action}

/-! ## In the midst of a change -/

/-- A device has one place among the observers of a remote. -/
theorem Sound.not_mem_called (h : b.Sound) (hr : b.site.remote? key = some r)
    {called missed : List (ObserverId × Observer)} {e : ObserverId × Observer}
    (hsplit : r.observers = called ++ e :: missed) {k : DeviceKey} {id : ObserverId}
    (hmem : (id, .device k) ∈ missed) (other : ObserverId) : (other, .device k) ∉ called := by
  intro hcalled
  have hleft : (other, .device k) ∈ r.observers := by simp [hsplit, hcalled]
  have hright : (id, .device k) ∈ r.observers := by simp [hsplit, hmem]
  obtain ⟨d, hd, -, hsub⟩ := h.site.observed hr hleft
  obtain ⟨d', hd', -, hsub'⟩ := h.site.observed hr hright
  obtain rfl : d = d' := by simpa [hd] using hd'
  obtain rfl : other = id := by simpa [hsub] using hsub'
  have hordered := (h.site.remote hr).ordered
  rw [hsplit] at hordered
  have hlt := (List.pairwise_append.1 hordered).2.2 _ hcalled _ (List.mem_cons_of_mem e hmem)
  exact Nat.lt_irrefl _ hlt

theorem Sound.interrupted (h : b.Sound) {holder : Holder} {state : Connection}
    {upset : List ObserverId} {called missed : List (ObserverId × Observer)}
    {e : ObserverId × Observer} (hkey : b.remoteKey? holder = some key)
    (hr : b.site.remote? key = some r) (hp : r.poisoned = false) (hs : r.state ≠ state)
    (hsplit : r.observers = called ++ e :: missed)
    (hcalled : ∀ x ∈ called, breaksAt state upset x = false)
    (he : breaksAt state upset e = true) :
    Interrupted b (.setState holder state upset) key r state called e missed := by
  have heffect : Site.StateChanged b.site key state upset r (b.site.setState key state upset) :=
    Site.stateChanged_setState hr hp hs
  have hany : r.observers.any (breaksAt state upset) = true := by simp [hsplit, he]
  have htold : told state upset r.observers = called ++ [e] := by
    rw [hsplit, told_eq_append hcalled he]
  have hlast : ∀ k id, ((id, .device k) : ObserverId × Observer) ≠ e := by
    rintro k id rfl
    simp [breaksAt_device] at he
  have hnot : ∀ k, (∀ id, (id, .device k) ∉ called) →
      ∀ id, (id, .device k) ∉ told state upset r.observers := by
    intro k hk id
    rw [htold, List.mem_append, List.mem_singleton, not_or]
    exact ⟨hk id, hlast k id⟩
  have hsite := step_setState hkey state upset
  exact
    { answer := by rw [hsite, conclude, heffect.result, if_pos hany]
      names := by rw [hsite]; rfl
      observers := hsplit
      ordered := (h.site.remote hr).ordered
      remote := by
        rw [hsite]
        exact (heffect.remote? key).trans (by rw [if_pos rfl, hany])
      others := by
        intro other hother
        rw [hsite]
        exact (heffect.remote? other).trans (if_neg hother)
      calls := by
        rw [hsite, ← htold]
        exact heffect.calls
      told := by
        intro k id hmem
        have hmem' : (id, .device k) ∈ told state upset r.observers := by simp [htold, hmem]
        obtain ⟨d, hd, -⟩ := h.site.observed hr (mem_of_mem_told hmem')
        obtain ⟨d', hd', hd'told⟩ := heffect.device?_of_told k d id hd hmem'
        exact ⟨d, d', hd, by rw [hsite]; exact hd', hd'told⟩
      missed := by
        intro k id hmem
        rw [hsite]
        exact heffect.device?_of_not_told k (hnot k (h.not_mem_called hr hsplit hmem))
      unobserving := by
        intro k hk
        rw [hsite]
        apply heffect.device?_of_not_told k
        intro id hmem
        exact hk id (mem_of_mem_told hmem) }

/-! ## Every failure -/

theorem Failure.remote (hf : Failure b key r a) : b.site.remote? key = some r := by
  cases hf with
  | change _ _ _ _ hr => exact hr
  | sample _ _ _ _ hr => exact hr

theorem Failure.contained (hf : Failure b key r a) (h : b.Sound) : Contained b key r a := by
  cases hf with
  | change holder state upset hkey hr hp hs hfails =>
    obtain ⟨called, e, missed, hsplit, hcalled, he⟩ := exists_first_breaking hfails
    exact .change holder state upset called e missed hcalled he
      (h.interrupted hkey hr hp hs hsplit hcalled he)
  | sample name holder failsOn hkey hr hp hfails =>
    have hsite : b.site.subscribe key (.recorder name failsOn) = _ :=
      Site.subscribe_recorder_of_fails hr hp hfails
    refine .sample name holder failsOn ?_
    rw [step_subscribe_of_error hkey (by rw [hsite]), hsite]

theorem Contained.answer (hc : Contained b key r a) :
    (b.step a).2.answer = .panicked .observerFailed := by
  cases hc with
  | change holder state upset called e missed _ _ h => exact h.answer
  | sample name holder failsOn h => rw [h]

/-- After a failure the remote is poisoned. -/
theorem Contained.poisoned (hc : Contained b key r a) (hr : b.site.remote? key = some r) :
    ∃ r', (b.step a).1.site.remote? key = some r' ∧ r'.poisoned = true := by
  cases hc with
  | change holder state upset called e missed _ _ h => exact ⟨_, h.remote, rfl⟩
  | sample name holder failsOn h =>
    rw [h]
    exact ⟨{ r with poisoned := true }, by simp [hr], rfl⟩

/-! ## No other failure -/

section Answer

variable {holder : Holder} {name : Text} {panic : Panic}

theorem exists_key_of_withRemote {f : RemoteKey → Bench × Outcome}
    (h : (b.withRemote holder f).2.answer = .panicked panic) :
    ∃ key, b.remoteKey? holder = some key ∧ (f key).2.answer = .panicked panic := by
  cases hkey : b.remoteKey? holder with
  | none => simp [withRemote, hkey] at h
  | some key => exact ⟨key, rfl, by simpa [withRemote, hkey] using h⟩

theorem exists_key_of_withDevice {f : DeviceKey → Bench × Outcome}
    (h : (b.withDevice name f).2.answer = .panicked panic) :
    ∃ k, b.devices.get? name = some k ∧ (f k).2.answer = .panicked panic := by
  cases hk : b.devices.get? name with
  | none => simp [withDevice, hk] at h
  | some k => exact ⟨k, rfl, by simpa [withDevice, hk] using h⟩

theorem exists_ends_of_withChannel {f : ChannelEnds → Bench × Outcome}
    (h : (b.withChannel name f).2.answer = .panicked panic) :
    ∃ ends, (f ends).2.answer = .panicked panic := by
  cases hends : b.channels.get? name with
  | none => simp [withChannel, hends] at h
  | some ends => exact ⟨ends, by simpa [withChannel, hends] using h⟩

/-- An operation is broken off with the panic of the site. -/
theorem result_of_conclude {α : Type} {e : Effect α} {answer : α → Answer}
    (hanswer : ∀ x, answer x ≠ .panicked panic)
    (h : (b.conclude e answer).2.answer = .panicked panic) : e.result = .error panic := by
  cases hresult : e.result with
  | ok x => exact absurd (by simpa [conclude, hresult] using h) (hanswer x)
  | error p =>
    obtain rfl : p = panic := by simpa [conclude, hresult] using h
    rfl

end Answer

/-- An action is broken off because an observer fails, because the remote has been poisoned, or
because something is not there or would be too large. -/
theorem Sound.cause_of_panic (h : b.Sound) {panic : Panic}
    (hanswer : (b.step a).2.answer = .panicked panic) :
    panic = .observerFailed ∧ (∃ key r, Failure b key r a) ∨
      panic ∈ [.poisonedRemote, .dangling, .bufferTooLarge] := by
  cases a with
  | newRemote | dropRemote => simp [Bench.step] at hanswer
  | cloneRemote =>
    obtain ⟨key, -, hdone⟩ := exists_key_of_withRemote hanswer
    simp at hdone
  | newDevice name holder channels =>
    obtain ⟨key, -, hdone⟩ := exists_key_of_withRemote hanswer
    cases hkeys : b.channelKeys channels with
    | error unknown => simp [hkeys] at hdone
    | ok keys => cases hold : b.devices.get? name <;> simp [hkeys, hold] at hdone
  | dropDevice =>
    obtain ⟨k, -, hdone⟩ := exists_key_of_withDevice hanswer
    simp at hdone
  | start name =>
    obtain ⟨k, -, hstart⟩ := exists_key_of_withDevice hanswer
    have hresult : (b.site.start k).result = .error panic := by
      apply result_of_conclude _ hstart
      intro x
      cases x <;> simp
    cases hd : b.site.device? k with
    | none => simp_all [Site.start_of_dangling hd]
    | some d =>
      obtain ⟨r, hr, -⟩ := h.site.attached hd
      by_cases hp : r.poisoned = true
      · simp_all [Site.start_of_poisoned hd hr hp]
      · have hp : r.poisoned = false := by simpa using hp
        by_cases hs : d.started = true
        · simp [Site.start_of_started hd hr hp hs] at hresult
        · have hs : d.started = false := by simpa using hs
          have hsub := h.site.subscription_eq_none hd hs
          simp [(Site.started_start hd hr hp hs hsub).result] at hresult
  | setState holder state upset =>
    obtain ⟨key, hkey, hchange⟩ := exists_key_of_withRemote hanswer
    have hresult := result_of_conclude (by simp) hchange
    cases hr : b.site.remote? key with
    | none => simp_all [Site.setState_of_dangling hr]
    | some r =>
      by_cases hp : r.poisoned = true
      · simp_all [Site.setState_of_poisoned hr hp]
      · have hp : r.poisoned = false := by simpa using hp
        by_cases hs : r.state = state
        · simp [Site.setState_of_eq hr hp hs] at hresult
        · rw [(Site.stateChanged_setState hr hp hs).result] at hresult
          split at hresult
          · next hany =>
            exact Or.inl ⟨(Except.error.inj hresult).symm, key, r,
              .change holder state upset hkey hr hp hs hany⟩
          · cases hresult
  | askRemote holder query =>
    obtain ⟨key, hkey, -⟩ := exists_key_of_withRemote hanswer
    rw [step_askRemote hkey] at hanswer
    cases hr : b.site.remote? key with
    | none => simp_all [conclude, Site.inspect]
    | some r =>
      by_cases hp : r.poisoned = true
      · simp_all [conclude, Site.inspect_of_poisoned hr hp]
      · have hp : r.poisoned = false := by simpa using hp
        rw [Site.inspect_of_not_poisoned hr hp] at hanswer
        cases query <;> simp [conclude, answerRemote] at hanswer
  | askDevice name query =>
    obtain ⟨k, -, hask⟩ := exists_key_of_withDevice hanswer
    cases hd : b.site.device? k with
    | none => simp_all
    | some d => cases query <;> simp [hd, answerDevice] at hask
  | subscribe name holder failsOn =>
    obtain ⟨key, hkey, -⟩ := exists_key_of_withRemote hanswer
    cases hresult : (b.site.subscribe key (.recorder name failsOn)).result with
    | ok id => simp [step_subscribe_of_ok hkey hresult rfl] at hanswer
    | error cause =>
      obtain rfl : cause = panic := by simpa [step_subscribe_of_error hkey hresult] using hanswer
      cases hr : b.site.remote? key with
      | none => simp_all [Site.subscribe_of_dangling hr]
      | some r =>
        by_cases hp : r.poisoned = true
        · simp_all [Site.subscribe_of_poisoned hr hp]
        · have hp : r.poisoned = false := by simpa using hp
          by_cases hf : failsOn = some r.state
          · rw [Site.subscribe_recorder_of_fails hr hp hf] at hresult
            exact Or.inl ⟨(Except.error.inj hresult).symm, key, r,
              .sample name holder failsOn hkey hr hp hf⟩
          · simp [Site.subscribe_recorder hr hp hf] at hresult
  | unsubscribe name => cases hs : b.subscriptions.get? name <;> simp [Bench.step, hs] at hanswer
  | newChannel name buffer =>
    by_cases hlimit : Channel.bufferLimit ≤ buffer
    · simp_all [Bench.step, Site.addChannel]
    · cases hold : b.channels.get? name <;>
        simp [Bench.step, Site.addChannel, hlimit, hold] at hanswer
  | dropSender | closeReceiver | dropReceiver =>
    obtain ⟨ends, hdone⟩ := exists_ends_of_withChannel hanswer
    simp at hdone
  | receive name limit =>
    obtain ⟨ends, hreceived⟩ := exists_ends_of_withChannel hanswer
    cases hc : b.site.channel? ends.channel with
    | none => simp_all
    | some c => simp [hc] at hreceived

/-- An action is broken off by an observer only if one fails. -/
theorem Sound.exists_failure (h : b.Sound)
    (hanswer : (b.step a).2.answer = .panicked .observerFailed) :
    ∃ key r, Failure b key r a := by
  rcases h.cause_of_panic hanswer with ⟨-, hfailure⟩ | hother
  · exact hfailure
  · simp at hother

/-! ## A poisoned remote -/

theorem isHeld_of_remoteKey? {holder : Holder} (hkey : b.remoteKey? holder = some key) :
    b.isHeld key = true := by
  cases holder with
  | handle name =>
    have hany : b.handles.any (· = key) = true := Named.any_of_get? hkey (by simp)
    simp [isHeld, hany]
  | device name =>
    obtain ⟨k, -, hkey⟩ := Option.bind_eq_some_iff.1 hkey
    obtain ⟨d, hd, hremote⟩ := Option.bind_eq_some_iff.1 hkey
    obtain rfl : d.remote = key := by simpa using hremote
    have hmem : some d ∈ b.site.devices :=
      List.mem_of_getElem? (Option.join_eq_some_iff.1 hd)
    have hany : (b.site.devices.any fun x => x.any (·.remote = d.remote)) = true :=
      List.any_eq_true.2 ⟨some d, hmem, by simp⟩
    simp [isHeld, hany]

theorem dropsDevice {name : Text} {k : DeviceKey} {d : Device}
    (hk : b.devices.get? name = some k) (hd : b.site.device? k = some d) :
    DropsDevice b name k d := by
  have hstep := step_dropDevice hk
  exact
    { answer := by rw [hstep]
      names := by rw [hstep]
      calls := by
        rw [hstep]
        exact Site.calls_dropDevice _ k
      device? := by
        rw [hstep]
        exact Site.device?_dropDevice hd
      remote? := by
        rw [hstep]
        exact Site.remote?_dropDevice hd }

theorem outOfUse (hr : b.site.remote? key = some r) (hp : r.poisoned = true) :
    OutOfUse b key r where
  remote := hr
  poisoned := hp
  ask hkey query := by
    rw [step_askRemote hkey, Site.inspect_of_poisoned hr hp]
    rfl
  setState hkey state upset := by
    rw [step_setState hkey, Site.setState_of_poisoned hr hp]
    rfl
  subscribe hkey name failsOn := by
    have hsite : b.site.subscribe key (.recorder name failsOn) =
        ⟨b.site, [], .error .poisonedRemote⟩ := Site.subscribe_of_poisoned hr hp
    rw [step_subscribe_of_error hkey (by rw [hsite]), hsite]
  start {name k d} hk hd hremote := by
    subst hremote
    simp [step, withDevice, hk, conclude, Site.start_of_poisoned hd hr hp]
  clone hkey handle := by simp [step, withRemote, hkey]
  dropHandle handle := rfl
  held := isHeld_of_remoteKey?
  unsubscribe {name id} hname := by
    by_cases hheld : b.isHeld key = true
    · simp [step, hname, dropSubscription, hheld, Site.unsubscribe_of_some hr]
    · simp [step, hname, dropSubscription, hheld]
  dropDevice hk hd _ := dropsDevice hk hd

/-! ## The main statement -/

/-- Failures are contained.  In every run an action is broken off by an observer exactly if one
fails; what that leaves behind is known for each thing on the bench; and whatever follows, the
remote stays out of use, keeps its state and calls nobody. -/
theorem failure_contained (before after : List Action) (a : Action) :
    (((run {} before).1.step a).2.answer = .panicked .observerFailed →
      ∃ key r, Failure (run {} before).1 key r a) ∧
    ∀ key r, Failure (run {} before).1 key r a →
      ((run {} before).1.step a).2.answer = .panicked .observerFailed ∧
      Contained (run {} before).1 key r a ∧
      (((run {} before).1.step a).1.history after).callsOf key = [] ∧
      ∃ r₁ r₂, ((run {} before).1.step a).1.site.remote? key = some r₁ ∧ r₂.state = r₁.state ∧
        OutOfUse (((run {} before).1.step a).1.run after).1 key r₂ := by
  have h : (run {} before).1.Sound := sound_empty.run before
  refine ⟨h.exists_failure, ?_⟩
  intro key r hf
  have hcontained := hf.contained h
  obtain ⟨r₁, hr₁, hp₁⟩ := hcontained.poisoned hf.remote
  obtain ⟨⟨r₂, hr₂, hp₂, hstate⟩, hcalls, -⟩ := (h.step a).run_of_poisoned hr₁ hp₁ after
  exact ⟨hcontained.answer, hcontained, hcalls, r₁, r₂, hr₁, hstate, outOfUse hr₂ hp₂⟩

/-- The recorder fails that stands between two devices; after that it is unsubscribed, and the
first device is dropped. -/
theorem failure_contained_attended :
    Contained (run {} (attended ++ [.start ['b']])).1 0
        { name := ['p'], observers := [(0, .device 0), (1, .recorder ['s'] none), (2, .device 1)],
          nextObserver := 3 }
        (.setState (.handle ['r']) .connected [1]) ∧
      ∃ r, OutOfUse (((run {} (attended ++ [.start ['b']])).1.step
          (.setState (.handle ['r']) .connected [1])).1.run
            [.unsubscribe ['s'], .dropDevice ['a']]).1 0 r ∧ r.observers = [(2, .device 1)] := by
  obtain ⟨-, hcontained, -, r₁, r₂, -, -, hout⟩ := (failure_contained
    (attended ++ [.start ['b']]) [.unsubscribe ['s'], .dropDevice ['a']]
    (.setState (.handle ['r']) .connected [1])).2 0
    { name := ['p'], observers := [(0, .device 0), (1, .recorder ['s'] none), (2, .device 1)],
      nextObserver := 3 }
    (.change (.handle ['r']) .connected [1] (by decide) (by decide) rfl (by decide) (by decide))
  have hobservers : ((((run {} (attended ++ [.start ['b']])).1.step
      (.setState (.handle ['r']) .connected [1])).1.run
        [.unsubscribe ['s'], .dropDevice ['a']]).1.site.remote? 0).map (·.observers) =
      some [(2, .device 1)] := by decide
  rw [hout.remote] at hobservers
  exact ⟨hcontained, r₂, hout, Option.some.inj hobservers⟩

end Bench

end DeviceTwin
