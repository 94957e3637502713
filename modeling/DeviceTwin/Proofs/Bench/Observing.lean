import DeviceTwin.Proofs.Bench.Soundness

/-!
# Who observes a remote

An observer of a remote stays until what is behind it is given up: the subscription that it was
added for, or its device.  `Drops` lists the actions that do so.  Nobody leaves a remote but who is
dropped (`Transition.drops`), and whoever is dropped leaves it as long as it exists (`Drops.lost`).
A number that has left does not come back (`Sound.observes_of_observes_run`).
-/

namespace DeviceTwin

namespace Bench

/-- Whether a remote has an observer with a number. -/
def observes (b : Bench) (key : RemoteKey) (id : ObserverId) : Bool :=
  (b.site.remote? key).any fun r => r.observers.any (·.1 = id)

/-- An action gives up the subscription or the device that is behind an observer.  What is put
under a name that is in use gives up what has stood there, but only if it comes about. -/
inductive Drops (b : Bench) (key : RemoteKey) (id : ObserverId) : Action → Answer → Prop where
  | unsubscribe (name : Text) (hname : b.subscriptions.get? name = some ⟨key, id⟩)
      (answer : Answer) : Drops b key id (.unsubscribe name) answer
  | resubscribe (name : Text) (hname : b.subscriptions.get? name = some ⟨key, id⟩)
      (holder : Holder) (failsOn : Option Connection) (number : ObserverId) :
      Drops b key id (.subscribe name holder failsOn) (.subscribed number)
  | dropDevice (name : Text) {k : DeviceKey} {d : Device} (hk : b.devices.get? name = some k)
      (hd : b.site.device? k = some d) (hremote : d.remote = key)
      (hid : d.subscription = some id) (answer : Answer) : Drops b key id (.dropDevice name) answer
  | newDevice (name : Text) {k : DeviceKey} {d : Device} (hk : b.devices.get? name = some k)
      (hd : b.site.device? k = some d) (hremote : d.remote = key)
      (hid : d.subscription = some id) (holder : Holder) (channels : List Text) :
      Drops b key id (.newDevice name holder channels) .done

variable {b : Bench} {a : Action} {key : RemoteKey} {id : ObserverId} {r r' : Remote}

theorem observes_iff (hr : b.site.remote? key = some r) :
    b.observes key id = true ↔ ∃ observer, (id, observer) ∈ r.observers := by
  simp [observes, hr]

theorem exists_remote?_of_observes (h : b.observes key id = true) :
    ∃ r, b.site.remote? key = some r ∧ ∃ observer, (id, observer) ∈ r.observers := by
  cases hr : b.site.remote? key with
  | none => simp [observes, hr] at h
  | some r => exact ⟨r, rfl, (observes_iff hr).1 h⟩

theorem observes_eq_false_of_lose (hr : b.site.remote? key = some (r.lose id)) :
    b.observes key id = false := by
  rw [Bool.eq_false_iff]
  intro hobs
  obtain ⟨observer, hmem⟩ := (observes_iff hr).1 hobs
  exact (Remote.mem_observers_lose.1 hmem).2 rfl

/-! ## Leaving -/

/-- An observer that is dropped together with a device is that of the device. -/
theorem exists_subscription_of_dropDevice {s : Site} {k : DeviceKey} {e : ObserverId × Observer}
    (hr : s.remote? key = some r) (hr' : (s.dropDevice k).1.remote? key = some r')
    (he : e ∈ r.observers) (he' : e ∉ r'.observers) :
    ∃ d, s.device? k = some d ∧ d.remote = key ∧ d.subscription = some e.1 := by
  cases hd : s.device? k with
  | none =>
    obtain rfl : r = r' := by simpa [Site.dropDevice, hd, hr] using hr'
    exact absurd he he'
  | some d =>
    rw [Site.remote?_dropDevice hd, hr] at hr'
    cases hsub : d.subscription with
    | none =>
      obtain rfl : r = r' := by simpa [hsub] using hr'
      exact absurd he he'
    | some id =>
      by_cases hremote : d.remote = key
      · obtain rfl : r.lose id = r' := by simpa [hsub, hremote] using hr'
        have hid : e.1 = id := by simpa [Remote.mem_observers_lose, he] using he'
        exact ⟨d, rfl, hremote, by rw [hsub, hid]⟩
      · obtain rfl : r = r' := by simpa [hsub, hremote] using hr'
        exact absurd he he'

/-- An observer leaves a remote only because what is behind it is given up. -/
theorem Transition.drops {b' : Bench} {a : Action} {o : Outcome} (ht : Transition b a b' o)
    (h : b.Sound) {e : ObserverId × Observer} (hr : b.site.remote? key = some r)
    (hr' : b'.site.remote? key = some r') (he : e ∈ r.observers) (he' : e ∉ r'.observers) :
    Drops b key e.1 a o.answer := by
  have hkeeps : ∀ {site : Site}, b.site.Keeps site → site.remote? key = some r' → False := by
    intro site hsite hr'
    obtain ⟨r₁, hr₁, hmem⟩ := hsite key r hr
    obtain rfl : r₁ = r' := by simpa [hr₁] using hr'
    exact he' (hmem e he)
  cases ht with
  | idle | cloneRemote | dropRemote => exact (hkeeps (Site.keeps_of_eq rfl) hr').elim
  | channels a answer remotes => exact (hkeeps (Site.keeps_of_eq remotes) hr').elim
  | newRemote handle name =>
    have hne : key ≠ b.site.remotes.length := Nat.ne_of_lt (Site.lt_length_of_remote? hr)
    rw [Site.remote?_addRemote, if_neg hne] at hr'
    exact (hkeeps (Site.keeps_of_eq rfl) hr').elim
  | start => exact (hkeeps (h.site.keeps_start _) hr').elim
  | setState => exact (hkeeps (Site.keeps_setState _ _ _ _) hr').elim
  | refused => exact (hkeeps (Site.keeps_subscribe_recorder _ _ _ _) hr').elim
  | @dropDevice name k hk =>
    obtain ⟨d, hd, hremote, hid⟩ := exists_subscription_of_dropDevice hr hr' he he'
    exact .dropDevice name hk hd hremote hid _
  | @newDevice name holder channels key₀ keys hkey =>
    have hadded : (b.addDevice name key₀ keys).site.remote? key = some r := by
      rw [remote?_addDevice, hr]
    cases hk : b.devices.get? name with
    | none =>
      rw [hk] at hr'
      obtain rfl : r = r' := Option.some.inj (hadded.symm.trans hr')
      exact absurd he he'
    | some k =>
      rw [hk] at hr'
      obtain ⟨d, hd, hremote, hid⟩ := exists_subscription_of_dropDevice hadded hr' he he'
      -- The device that is dropped is an old one, not the one that takes its name.
      obtain ⟨d₀, hd₀⟩ := h.devices.leads hk
      have hne : k ≠ b.site.devices.length := Nat.ne_of_lt (Site.lt_length_of_device? hd₀)
      rw [device?_addDevice, if_neg hne] at hd
      exact .newDevice name hk hd hremote hid holder channels
  | @unsubscribe name s hs =>
    rcases remote?_dropSubscription? b (some s) hr with hsame | ⟨sub, hsub, rfl, hlost⟩
    · obtain rfl : r = r' := Option.some.inj (hsame.symm.trans hr')
      exact absurd he he'
    · obtain rfl : r.lose sub.observer = r' := Option.some.inj (hlost.symm.trans hr')
      have hid : e.1 = sub.observer := by simpa [Remote.mem_observers_lose, he] using he'
      refine .unsubscribe name ?_ _
      rw [hs, hsub, hid]
  | @subscribed name holder failsOn key₀ hkey id result b₁ hb₁ =>
    obtain ⟨r₁, hr₁, hmem⟩ :=
      b.site.keeps_subscribe_recorder key₀ name failsOn key r hr
    have hr₁ : b₁.site.remote? key = some r₁ := by rw [hb₁, hr₁]
    rcases remote?_dropSubscription? b₁ (b.subscriptions.get? name) hr₁ with
      hsame | ⟨sub, hsub, rfl, hlost⟩
    · obtain rfl : r₁ = r' := Option.some.inj (hsame.symm.trans hr')
      exact absurd (hmem e he) he'
    · obtain rfl : r₁.lose sub.observer = r' := Option.some.inj (hlost.symm.trans hr')
      have hid : e.1 = sub.observer := by
        simpa [Remote.mem_observers_lose, hmem e he] using he'
      refine .resubscribe name ?_ holder failsOn _
      rw [hsub, hid]

/-- A device that is dropped takes its own observer away from its remote. -/
theorem exists_lose_of_dropDevice {s : Site} {k : DeviceKey} {d : Device} (h : s.Sound)
    (hd : s.device? k = some d) (hid : d.subscription = some id) :
    ∃ r, s.remote? d.remote = some r ∧ id < r.nextObserver ∧
      (s.dropDevice k).1.remote? d.remote = some (r.lose id) := by
  obtain ⟨r, hr, hatt⟩ := h.attached hd
  cases hatt with
  | idle hnone => simp [hid] at hnone
  | following number _ hsome _ hmem =>
    obtain rfl : number = id := Option.some.inj (hsome.symm.trans hid)
    refine ⟨r, hr, (h.remote hr).numbered _ hmem, ?_⟩
    rw [Site.remote?_dropDevice hd, hid]
    simp [hr]

/-- Whoever is dropped has a number of its remote, and leaves that if it still exists. -/
theorem Drops.lost (hdrops : Drops b key id a (b.step a).2.answer) (h : b.Sound)
    (hheld : b.isHeld key = true) :
    (∃ r, b.site.remote? key = some r ∧ id < r.nextObserver) ∧
      ∃ r : Remote, (b.step a).1.site.remote? key = some (r.lose id) := by
  generalize hanswer : (b.step a).2.answer = answer at hdrops
  cases hdrops with
  | unsubscribe name hname =>
    obtain ⟨r, hr, hlt, -⟩ := h.subscription hname
    refine ⟨⟨r, hr, hlt⟩, r, ?_⟩
    rw [step_unsubscribe hname]
    change (b.dropSubscription ⟨key, id⟩).1.site.remote? key = _
    rw [site_dropSubscription_of_held hheld, Site.remote?_unsubscribe, if_pos rfl, hr]
    rfl
  | resubscribe name hname holder failsOn number =>
    obtain ⟨r, hr, hlt, -⟩ := h.subscription hname
    obtain ⟨key₀, hkey, hresult⟩ := exists_of_subscribed hanswer
    obtain ⟨r₁, hr₁, -⟩ := b.site.keeps_subscribe_recorder key₀ name failsOn key r hr
    have hheld₁ : Bench.isHeld { b with
        site := (b.site.subscribe key₀ (.recorder name failsOn)).site
        subscriptions := b.subscriptions.put name ⟨key₀, number⟩ } key = true := by
      rw [isHeld_subscribe hresult]
      exact hheld
    refine ⟨⟨r, hr, hlt⟩, r₁, ?_⟩
    rw [step_subscribe_of_ok hkey hresult rfl, hname, dropSubscription?,
      site_dropSubscription_of_held hheld₁, Site.remote?_unsubscribe, if_pos rfl, hr₁]
    rfl
  | @dropDevice name k d hk hd hremote hid =>
    subst hremote
    obtain ⟨r, hr, hlt, hlost⟩ := exists_lose_of_dropDevice h.site hd hid
    refine ⟨⟨r, hr, hlt⟩, r, ?_⟩
    rw [step_dropDevice hk]
    exact hlost
  | @newDevice name k d hk hd hremote hid holder channels =>
    subst hremote
    obtain ⟨key₀, keys, hkey, hkeys⟩ := exists_keys_of_newDevice hanswer
    -- The new device stands beside the old one for a moment.
    obtain ⟨r, hr, hlt, hlost⟩ := exists_lose_of_dropDevice (h.site_addDevice hkey name keys)
      (device?_addDevice_of_some hd name key₀ keys) hid
    rw [remote?_addDevice] at hr
    refine ⟨⟨r, hr, hlt⟩, r, ?_⟩
    rw [step_newDevice hkey hkeys, hk]
    exact hlost

/-! ## Not coming back -/

/-- A number that was given away and is not in use is never used again. -/
theorem Sound.observes_of_observes_step (h : b.Sound) (hr : b.site.remote? key = some r)
    (hid : id < r.nextObserver) {a : Action} (hobs : (b.step a).1.observes key id = true) :
    b.observes key id = true := by
  obtain ⟨r', hr', hstep, -⟩ := (transition_step b a).remote h hr
  obtain ⟨observer, hmem⟩ := (observes_iff hr').1 hobs
  rcases hstep.mem_observers hmem with hmem | heq
  · exact (observes_iff hr).2 ⟨observer, hmem⟩
  · exact absurd heq (Nat.ne_of_lt hid)

theorem Sound.observes_of_observes_run (h : b.Sound) (hr : b.site.remote? key = some r)
    (hid : id < r.nextObserver) {actions : List Action}
    (hobs : (b.run actions).1.observes key id = true) : b.observes key id = true := by
  induction actions generalizing b r with
  | nil => exact hobs
  | cons a rest ih =>
    obtain ⟨r', hr', hstep, -⟩ := (transition_step b a).remote h hr
    have hid' := Nat.lt_of_lt_of_le hid hstep.nextObserver_le
    exact h.observes_of_observes_step hr hid (ih (h.step a) hr' hid' hobs)

end Bench

end DeviceTwin
