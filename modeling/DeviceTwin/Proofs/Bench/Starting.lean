import DeviceTwin.Proofs.Bench.Containment
import DeviceTwin.Proofs.Bench.Mirroring
import DeviceTwin.Proofs.Bench.Registry

/-!
# Starting is all or nothing

A device is marked as started first, then it is told the state of its remote and added to the
observers, and its subscription is stored last.  The main statement, `start_is_all_or_nothing`, says
that no run ever shows a device in between: the mark, the subscription and the place among the
observers come and stay together.  Whoever starts a device gets all of them (`Starts`), or nothing
has changed at all.
-/

namespace DeviceTwin

/-- The mark of a device, its subscription and its place among the observers of its remote agree. -/
structure Device.Enlisted (k : DeviceKey) (d : Device) (r : Remote) : Prop where
  subscribed : d.subscription.isSome = d.started
  observing : r.observers.countP (·.2 = .device k) = if d.started then 1 else 0
  numbered : ∀ id, (id, .device k) ∈ r.observers ↔ d.subscription = some id

namespace Bench

/-- What the first start of a device does. -/
structure Starts (b : Bench) (name : Text) (k : DeviceKey) (d : Device) (r : Remote) : Prop where
  answer : (b.step (.start name)).2.answer = .done
  names : (b.step (.start name)).1 = { b with site := (b.step (.start name)).1.site }
  /-- The device is told the state of its remote, and nobody else is called. -/
  calls : (b.step (.start name)).2.trace.calls =
    [⟨d.remote, r.nextObserver, .device k, r.state⟩]
  publications : (b.step (.start name)).2.trace.publications k = [.ofConnection r.state]
  /-- All other observers have smaller numbers. -/
  numbered : ∀ e ∈ r.observers, e.1 < r.nextObserver
  remote : (b.step (.start name)).1.site.remote? d.remote = some { r with
    observers := r.observers ++ [(r.nextObserver, .device k)]
    nextObserver := r.nextObserver + 1 }
  remote?_of_ne : ∀ other, d.remote ≠ other →
    (b.step (.start name)).1.site.remote? other = b.site.remote? other
  /-- Only the senders depend on what has become of the channels. -/
  device : ∃ senders, (b.step (.start name)).1.site.device? k = some {
    remote := d.remote
    started := true
    status := .ofConnection r.state
    model := { loaded := r.state.isConnected, loads := if r.state.isConnected then 1 else 0 }
    senders
    subscription := some r.nextObserver }
  device?_of_ne : ∀ other, k ≠ other →
    (b.step (.start name)).1.site.device? other = b.site.device? other

/-- What becomes of starting a device. -/
structure StartCases (b : Bench) (name : Text) (k : DeviceKey) (d : Device) (r : Remote) :
    Prop where
  first : r.poisoned = false → d.started = false → Starts b name k d r
  again : r.poisoned = false → d.started = true →
    b.step (.start name) = (b, { answer := .refused (.alreadyStarted r.name) })
  poisoned : r.poisoned = true →
    b.step (.start name) = (b, { answer := .panicked .poisonedRemote })

/-- A number that a remote has given away in a run. -/
def Taken (actions : List Action) (key : RemoteKey) (id : ObserverId) : Prop :=
  ∃ before a between, actions = before ++ a :: between ∧
    Registers (run {} before).1 key id a

variable {b : Bench} {name : Text} {k : DeviceKey} {d : Device} {r : Remote}

theorem Sound.enlisted (h : b.Sound) (hd : b.site.device? k = some d)
    (hr : b.site.remote? d.remote = some r) : d.Enlisted k r := by
  have hnumbered : ∀ id, (id, .device k) ∈ r.observers → d.subscription = some id := by
    intro id hmem
    obtain ⟨d₀, hd₀, -, -, hid⟩ := (h.mem_observers_iff hr).1 hmem
    obtain rfl : d = d₀ := Option.some.inj (hd.symm.trans hd₀)
    exact hid
  obtain ⟨r₀, hr₀, hatt⟩ := h.site.attached hd
  obtain rfl : r = r₀ := Option.some.inj (hr.symm.trans hr₀)
  cases hatt with
  | idle hsub hstarted =>
    have hnot : ∀ id, (id, .device k) ∉ r.observers := by
      intro id hmem
      simp [hnumbered id hmem] at hsub
    refine ⟨by simp [hsub, hstarted], ?_, fun id => by simp [hnot id, hsub]⟩
    rw [hstarted, if_neg Bool.false_ne_true, List.countP_eq_zero]
    rintro ⟨id, observer⟩ hmem hk
    obtain rfl : observer = .device k := by simpa using hk
    exact hnot id hmem
  | following id _ hsub hstarted hmem =>
    refine ⟨by simp [hsub, hstarted], ?_, fun other => ⟨hnumbered other, ?_⟩⟩
    · rw [hstarted, if_pos rfl, List.countP_eq_length_filter,
        h.site.filter_device hr (List.Sublist.refl _) hmem, List.length_singleton]
    · intro hother
      obtain rfl : id = other := Option.some.inj (hsub.symm.trans hother)
      exact hmem

theorem step_start (hk : b.devices.get? name = some k) :
    ∃ answer : Except StartError Unit → Answer, answer (.ok ()) = .done ∧
      (∀ e, answer (.error e) = .refused e) ∧
        b.step (.start name) = b.conclude (b.site.start k) answer := by
  refine ⟨_, ?_, ?_, by rw [step, withDevice, hk]⟩
  · rfl
  · intro e
    rfl

theorem Sound.starts (h : b.Sound) (hk : b.devices.get? name = some k)
    (hd : b.site.device? k = some d) (hr : b.site.remote? d.remote = some r)
    (hp : r.poisoned = false) (hs : d.started = false) : Starts b name k d r := by
  obtain ⟨r₀, -, hatt⟩ := h.site.attached hd
  cases hatt with
  | following _ _ _ hstarted => simp [hs] at hstarted
  | idle hsub _ hstatus hmodel =>
    obtain ⟨answer, hdone, -, hstep⟩ := step_start hk
    have hstarted := Site.started_start hd hr hp hs hsub
    have hpublications := Site.publications_start hd hr hp hs hsub hstatus
    obtain ⟨⟨remote, started, status, model, senders, subscription⟩, hd', htold⟩ :=
      hstarted.device?
    obtain rfl : remote = d.remote := htold.remote
    obtain rfl : started = true := htold.started
    obtain rfl : status = .ofConnection r.state := htold.status
    have hmodel' : model =
        { loaded := r.state.isConnected, loads := if r.state.isConnected then 1 else 0 } := by
      refine htold.model.trans ?_
      change (d.model.follow r.state).1 = _
      rw [hmodel]
      cases r.state <;> rfl
    exact
      { answer := by
          rw [hstep, conclude, hstarted.result]
          exact hdone
        names := by rw [hstep]; rfl
        calls := by rw [hstep]; exact hstarted.calls
        publications := by rw [hstep]; exact hpublications
        numbered := (h.site.remote hr).numbered
        remote := by
          rw [hstep]
          exact (hstarted.remote? d.remote).trans (if_pos rfl)
        remote?_of_ne := by
          intro other hother
          rw [hstep]
          exact (hstarted.remote? other).trans (if_neg hother)
        device := by
          rw [hstep]
          exact ⟨senders, hmodel' ▸ hd'⟩
        device?_of_ne := by
          intro other hother
          rw [hstep]
          exact hstarted.device?_of_ne other (Ne.symm hother) }

/-- A device that has been started is not started again. -/
theorem step_start_of_started (hk : b.devices.get? name = some k)
    (hd : b.site.device? k = some d) (hr : b.site.remote? d.remote = some r)
    (hp : r.poisoned = false) (hs : d.started = true) :
    b.step (.start name) = (b, { answer := .refused (.alreadyStarted r.name) }) := by
  obtain ⟨answer, -, hrefused, hstep⟩ := step_start hk
  rw [hstep, Site.start_of_started hd hr hp hs, conclude, ← hrefused]

theorem step_start_of_poisoned (hk : b.devices.get? name = some k)
    (hd : b.site.device? k = some d) (hr : b.site.remote? d.remote = some r)
    (hp : r.poisoned = true) :
    b.step (.start name) = (b, { answer := .panicked .poisonedRemote }) := by
  obtain ⟨answer, -, -, hstep⟩ := step_start hk
  rw [hstep, Site.start_of_poisoned hd hr hp, conclude]

/-- A number that was given away is below the next one of its remote. -/
theorem Taken.lt_nextObserver {actions : List Action} {key : RemoteKey} {id : ObserverId}
    (htaken : Taken actions key id) (hr : (run {} actions).1.site.remote? key = some r) :
    id < r.nextObserver := by
  obtain ⟨before, a, between, rfl, hreg⟩ := htaken
  have h : (run {} before).1.Sound := sound_empty.run before
  obtain ⟨-, r₁, -, hr₁, -, hlt⟩ := hreg.number h
  obtain ⟨r₂, hr₂, hle⟩ := (h.step a).nextObserver_le_run hr₁ between
  rw [run_append_cons, hr₂] at hr
  obtain rfl := Option.some.inj hr
  exact Nat.lt_of_lt_of_le hlt hle

/-- No action is broken off since a device would observe its remote twice. -/
theorem Sound.ne_subscribedTwice (h : b.Sound) (a : Action) :
    (b.step a).2.answer ≠ .panicked .subscribedTwice := by
  intro hanswer
  rcases h.cause_of_panic hanswer with ⟨hcause, -⟩ | hcause
  · cases hcause
  · simp at hcause

/-! ## The main statement -/

/-- Starting is all or nothing.  After any run, a device has been started if and only if it has a
subscription, and if and only if it stands among the observers of its remote, and then it does so
once.  Whoever starts it gets all of that with a number that was never given away before, and the
device shows the state of its remote; a device that has been started before is refused, a poisoned
remote panics, and both leave everything as it was.  No device is ever subscribed twice. -/
theorem start_is_all_or_nothing (actions : List Action) :
    (∀ k d, (run {} actions).1.site.device? k = some d →
      ∃ r, (run {} actions).1.site.remote? d.remote = some r ∧ d.Enlisted k r ∧
        (∃ name, (run {} actions).1.devices.get? name = some k) ∧
        ∀ name, (run {} actions).1.devices.get? name = some k →
          StartCases (run {} actions).1 name k d r) ∧
    (∀ key r id, (run {} actions).1.site.remote? key = some r → Taken actions key id →
      id < r.nextObserver) ∧
    ∀ a, ((run {} actions).1.step a).2.answer ≠ .panicked .subscribedTwice := by
  have h : (run {} actions).1.Sound := sound_empty.run actions
  refine ⟨?_, ?_, h.ne_subscribedTwice⟩
  · intro k d hd
    obtain ⟨r, hr, -⟩ := h.site.attached hd
    refine ⟨r, hr, h.enlisted hd hr, h.devices.named ⟨d, hd⟩, ?_⟩
    intro name hk
    exact
      { first := h.starts hk hd hr
        again := step_start_of_started hk hd hr
        poisoned := step_start_of_poisoned hk hd hr }
  · intro key r id hr htaken
    exact htaken.lt_nextObserver hr

/-- Of two devices one has been started, and the other one can be.  After the recorder between them
has failed, neither can. -/
theorem start_is_all_or_nothing_attended :
    let broken := attended ++ [.setState (.handle ['r']) .connected [1]]
    (∃ r, Starts (run {} attended).1 ['b'] 1 { remote := 0 } r ∧
      ({ remote := 0 } : Device).Enlisted 1 r ∧ Taken attended 0 1 ∧ 1 < r.nextObserver) ∧
    (run {} attended).1.step (.start ['a']) =
      ((run {} attended).1, { answer := .refused (.alreadyStarted ['p']) }) ∧
    (run {} broken).1.step (.start ['b']) =
      ((run {} broken).1, { answer := .panicked .poisonedRemote }) := by
  intro broken
  obtain ⟨hdevices, hnumbers, -⟩ := start_is_all_or_nothing attended
  obtain ⟨hbroken, -⟩ := start_is_all_or_nothing broken
  have hattended : (run {} attended).1.site.remote? 0 = some
      { name := ['p'], observers := [(0, .device 0), (1, .recorder ['s'] none)],
        nextObserver := 2 } := by decide
  refine ⟨?_, ?_, ?_⟩
  · obtain ⟨r, hr, henlisted, -, hcases⟩ := hdevices 1 { remote := 0 } (by decide)
    have htaken : Taken attended 0 1 :=
      ⟨attended.take 3, .subscribe ['s'] (.handle ['r']) none, attended.drop 4, rfl,
        .subscribe ['s'] (.handle ['r']) none (by decide) (by decide)⟩
    have hlt := hnumbers 0 r 1 hr htaken
    obtain rfl := Option.some.inj (hattended.symm.trans hr)
    exact ⟨_, (hcases ['b'] (by decide)).first rfl rfl, henlisted, htaken, hlt⟩
  · obtain ⟨r, hr, -, -, hcases⟩ := hdevices 0
      { remote := 0, started := true, status := .disconnected, subscription := some 0 } (by decide)
    obtain rfl := Option.some.inj (hattended.symm.trans hr)
    exact (hcases ['a'] (by decide)).again rfl rfl
  · obtain ⟨r, hr, -, -, hcases⟩ := hbroken 1 { remote := 0 } (by decide)
    have hpoisoned : ((run {} broken).1.site.remote? 0).map (·.poisoned) = some true := by decide
    rw [hr] at hpoisoned
    exact (hcases ['b'] (by decide)).poisoned (Option.some.inj hpoisoned)

end Bench

end DeviceTwin
