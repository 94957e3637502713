import DeviceTwin.Proofs.Site.Operations

/-!
# Sound sites

A site is sound if its remotes and its devices tell the same story.  The observers of a remote have
increasing numbers below the next one; a device stands among them exactly if it has a subscription,
once and under the number of that; and a device is either as it was made, or it has been started
and shows a state that is the state of its remote unless that is poisoned.

Every operation on a site keeps it sound.  The interesting cases are the change of state, where all
devices of the remote have to be among the observers that are called, and the drop of a device,
where no other device may lose its place.
-/

namespace DeviceTwin

/-! ## Remotes -/

/-- The numbers of the observers of a remote increase and have all been given away. -/
structure Remote.Sound (r : Remote) : Prop where
  ordered : r.observers.Pairwise (·.1 < ·.1)
  numbered : ∀ e ∈ r.observers, e.1 < r.nextObserver

namespace Remote

variable {r : Remote}

theorem mem_observers_gain {observer : Observer} {e : ObserverId × Observer} :
    e ∈ (r.gain observer).observers ↔ e ∈ r.observers ∨ e = (r.nextObserver, observer) := by
  simp [gain]

theorem mem_observers_lose {id : ObserverId} {e : ObserverId × Observer} :
    e ∈ (r.lose id).observers ↔ e ∈ r.observers ∧ e.1 ≠ id := by
  simp [lose]

theorem sound_new (name : Text) : ({ name } : Remote).Sound where
  ordered := List.Pairwise.nil
  numbered := by simp

theorem Sound.gain (h : r.Sound) (observer : Observer) : (r.gain observer).Sound where
  ordered := by
    refine List.pairwise_append.2 ⟨h.ordered, List.pairwise_singleton _ _, ?_⟩
    intro e he x hx
    rw [List.mem_singleton.1 hx]
    exact h.numbered e he
  numbered := by
    intro e he
    change e.1 < r.nextObserver + 1
    rcases mem_observers_gain.1 he with he | rfl
    · exact Nat.lt_succ_of_lt (h.numbered e he)
    · exact Nat.lt_succ_self _

theorem Sound.lose (h : r.Sound) (id : ObserverId) : (r.lose id).Sound where
  ordered := h.ordered.filter _
  numbered := fun e he => h.numbered e (mem_observers_lose.1 he).1

theorem Sound.of_eq {r' : Remote} (h : r.Sound) (ho : r'.observers = r.observers)
    (hn : r'.nextObserver = r.nextObserver) : r'.Sound where
  ordered := ho ▸ h.ordered
  numbered := by
    rw [ho, hn]
    exact h.numbered

/-- A number stands for one observer. -/
theorem Sound.eq_of_mem (h : r.Sound) {e x : ObserverId × Observer} (he : e ∈ r.observers)
    (hx : x ∈ r.observers) (hid : e.1 = x.1) : e = x := by
  obtain ⟨i, hi, rfl⟩ := List.mem_iff_getElem.1 he
  obtain ⟨j, hj, rfl⟩ := List.mem_iff_getElem.1 hx
  have hlt := List.pairwise_iff_getElem.1 h.ordered
  rcases Nat.lt_trichotomy i j with hij | rfl | hij
  · exact absurd hid (Nat.ne_of_lt (hlt i j hi hj hij))
  · rfl
  · exact absurd hid.symm (Nat.ne_of_lt (hlt j i hj hi hij))

end Remote

/-! ## Devices -/

/-- How a device stands to its remote. -/
inductive Device.Attached (key : DeviceKey) (d : Device) (r : Remote) : Prop where
  /-- The device has not been started and is as it was made. -/
  | idle (subscription : d.subscription = none) (started : d.started = false)
      (status : d.status = .stopped) (model : d.model = {})
  /-- The device observes the remote and shows the state that it was told last. -/
  | following (id : ObserverId) (state : Connection) (subscription : d.subscription = some id)
      (started : d.started = true) (observed : (id, .device key) ∈ r.observers)
      (status : d.status = .ofConnection state) (model : d.model.loaded = state.isConnected)
      (current : r.poisoned = false → r.state = state)

namespace Device

variable {key : DeviceKey} {d d' : Device} {r r' : Remote}

/-- A device stays attached to its remote if that keeps the device and its state. -/
theorem Attached.of_remote (h : d.Attached key r)
    (hobs : ∀ id, (id, .device key) ∈ r.observers → (id, .device key) ∈ r'.observers)
    (hstate : r'.poisoned = false → r.poisoned = false ∧ r'.state = r.state) :
    d.Attached key r' := by
  cases h with
  | idle hsub hstarted hstatus hmodel => exact .idle hsub hstarted hstatus hmodel
  | following id state hsub hstarted hmem hstatus hmodel hcurrent =>
    apply Attached.following id state hsub hstarted (hobs id hmem) hstatus hmodel
    intro hp
    obtain ⟨hp', hs⟩ := hstate hp
    rw [hs, hcurrent hp']

/-- A device that has been told the state of its remote is attached to it. -/
theorem Told.attached {state : Connection} {id : ObserverId} (h : d.Told state d')
    (hstarted : d.started = true) (hsub : d.subscription = some id)
    (hmem : (id, .device key) ∈ r.observers) (hstate : r.state = state) : d'.Attached key r :=
  .following id state (h.subscription.trans hsub) (h.started.trans hstarted) hmem h.status
    (by rw [h.model, Model.loaded_follow]) fun _ => hstate

end Device

/-! ## Sites -/

/-- The remotes and the devices of a site tell the same story. -/
structure Site.Sound (s : Site) : Prop where
  remote : ∀ {key r}, s.remote? key = some r → r.Sound
  /-- A device that stands among the observers of a remote has its number there. -/
  observed : ∀ {key r id k}, s.remote? key = some r → (id, .device k) ∈ r.observers →
    ∃ d, s.device? k = some d ∧ d.remote = key ∧ d.subscription = some id
  attached : ∀ {k d}, s.device? k = some d → ∃ r, s.remote? d.remote = some r ∧ d.Attached k r

namespace Site

variable {s s' : Site} {key : RemoteKey} {r : Remote} {k : DeviceKey} {d : Device}

theorem sound_empty : ({} : Site).Sound where
  remote h := by simp [remote?] at h
  observed h := by simp [remote?] at h
  attached h := by simp [device?] at h

theorem Sound.of_eq (h : s.Sound) (hr : s'.remotes = s.remotes) (hd : s'.devices = s.devices) :
    s'.Sound := by
  have hremote : ∀ key, s'.remote? key = s.remote? key := fun key => by simp [remote?, hr]
  have hdevice : ∀ k, s'.device? k = s.device? k := fun k => by simp [device?, hd]
  constructor
  · intro key r hr
    exact h.remote (hremote key ▸ hr)
  · intro key r id k hr hmem
    rw [hdevice k]
    exact h.observed (hremote key ▸ hr) hmem
  · intro k d hd
    rw [hremote]
    exact h.attached (hdevice k ▸ hd)

theorem Sound.addRemote (h : s.Sound) (name : Text) : (s.addRemote name).1.Sound := by
  constructor
  · intro key r hr
    rw [remote?_addRemote] at hr
    split at hr
    · cases hr
      exact Remote.sound_new name
    · exact h.remote hr
  · intro key r id k hr hmem
    rw [remote?_addRemote] at hr
    split at hr
    · cases hr
      simp at hmem
    · simpa using h.observed hr hmem
  · intro k d hd
    obtain ⟨r, hr, hatt⟩ := h.attached (k := k) (d := d) (by simpa using hd)
    refine ⟨r, ?_, hatt⟩
    have hne : d.remote ≠ s.remotes.length := Nat.ne_of_lt (lt_length_of_remote? hr)
    rw [remote?_addRemote, if_neg hne, hr]

theorem Sound.addDevice (h : s.Sound) (hr : s.remote? key = some r) (senders : List Sender) :
    (s.addDevice key senders).1.Sound := by
  constructor
  · intro key' r' hr'
    exact h.remote (by simpa using hr')
  · intro key' r' id k hr' hmem
    obtain ⟨d, hd, hrest⟩ := h.observed (by simpa using hr') hmem
    have hne : k ≠ s.devices.length := Nat.ne_of_lt (lt_length_of_device? hd)
    exact ⟨d, by rw [device?_addDevice, if_neg hne, hd], hrest⟩
  · intro k d hd
    rw [device?_addDevice] at hd
    split at hd
    · cases hd
      exact ⟨r, by simpa using hr, .idle rfl rfl rfl rfl⟩
    · simpa using h.attached hd

/-- A remote may change as long as it keeps its devices, and its state unless it is poisoned. -/
theorem Sound.modifyRemote (h : s.Sound) (hr : s.remote? key = some r) {f : Remote → Remote}
    (hsound : (f r).Sound)
    (hobs : ∀ id k, (id, .device k) ∈ (f r).observers ↔ (id, .device k) ∈ r.observers)
    (hstate : (f r).poisoned = false → r.poisoned = false ∧ (f r).state = r.state) :
    (s.modifyRemote key f).Sound := by
  constructor
  · intro key' r' hr'
    rw [remote?_modifyRemote] at hr'
    split at hr'
    · next heq =>
      subst heq
      obtain rfl : f r = r' := by simpa [hr] using hr'
      exact hsound
    · exact h.remote hr'
  · intro key' r' id k hr' hmem
    rw [remote?_modifyRemote] at hr'
    split at hr'
    · next heq =>
      subst heq
      obtain rfl : f r = r' := by simpa [hr] using hr'
      simpa using h.observed hr ((hobs id k).1 hmem)
    · simpa using h.observed hr' hmem
  · intro k d hd
    obtain ⟨r', hr', hatt⟩ := h.attached (k := k) (d := d) (by simpa using hd)
    by_cases heq : key = d.remote
    · subst heq
      obtain rfl : r = r' := by simpa [hr] using hr'
      refine ⟨f r, by simp [hr], hatt.of_remote (fun id => (hobs id k).2) hstate⟩
    · exact ⟨r', by simp [heq, hr'], hatt⟩

theorem Sound.subscribe_recorder (h : s.Sound) (key : RemoteKey) (label : Text)
    (failsOn : Option Connection) : (s.subscribe key (.recorder label failsOn)).site.Sound := by
  cases hr : s.remote? key with
  | none => rwa [subscribe_of_dangling hr]
  | some r =>
    by_cases hp : r.poisoned = true
    · rwa [subscribe_of_poisoned hr hp]
    · have hp : r.poisoned = false := by simpa using hp
      by_cases hf : failsOn = some r.state
      · rw [subscribe_recorder_of_fails hr hp hf]
        exact h.modifyRemote hr ((h.remote hr).of_eq rfl rfl) (fun _ _ => Iff.rfl) (by simp)
      · rw [Site.subscribe_recorder hr hp hf]
        apply h.modifyRemote hr ((h.remote hr).gain _)
        · intro id k
          simp [Remote.mem_observers_gain]
        · intro hp
          exact ⟨hp, rfl⟩

theorem Sound.unsubscribe (h : s.Sound) {id : ObserverId}
    (hid : ∀ r k, s.remote? key = some r → (id, .device k) ∉ r.observers) :
    (s.unsubscribe key id).1.Sound := by
  cases hr : s.remote? key with
  | none => simpa [Site.unsubscribe, hr] using h
  | some r =>
    rw [unsubscribe_of_some hr]
    apply h.modifyRemote hr ((h.remote hr).lose id)
    · intro i k
      rw [Remote.mem_observers_lose]
      constructor
      · exact And.left
      · intro hmem
        refine ⟨hmem, ?_⟩
        rintro rfl
        exact hid r k hr hmem
    · intro hp
      exact ⟨hp, rfl⟩

theorem StateChanged.sound {state : Connection} {upset : List ObserverId} {e : Effect Unit}
    (h : s.Sound) (hr : s.remote? key = some r) (he : StateChanged s key state upset r e) :
    e.site.Sound := by
  constructor
  · intro key' r' hr'
    rw [he.remote?] at hr'
    split at hr'
    · cases hr'
      exact (h.remote hr).of_eq rfl rfl
    · exact h.remote hr'
  · -- Devices keep their remote and their number, whether they are called or not.
    intro key' r' id k hr' hmem
    obtain ⟨d, hd, hremote, hsub⟩ : ∃ d, s.device? k = some d ∧ d.remote = key' ∧
        d.subscription = some id := by
      rw [he.remote?] at hr'
      split at hr'
      · next heq =>
        cases hr'
        subst heq
        exact h.observed hr hmem
      · exact h.observed hr' hmem
    by_cases htold : ∃ i, (i, .device k) ∈ told state upset r.observers
    · obtain ⟨i, hi⟩ := htold
      obtain ⟨d', hd', htold⟩ := he.device?_of_told k d i hd hi
      exact ⟨d', hd', htold.remote.trans hremote, htold.subscription.trans hsub⟩
    · have hsame := he.device?_of_not_told k fun i hi => htold ⟨i, hi⟩
      exact ⟨d, hsame.trans hd, hremote, hsub⟩
  · intro k d' hd'
    by_cases htold : ∃ i, (i, .device k) ∈ told state upset r.observers
    · obtain ⟨i, hi⟩ := htold
      obtain ⟨d, hd, hremote, hsub⟩ := h.observed hr (mem_of_mem_told hi)
      obtain ⟨d'', hd'', htold⟩ := he.device?_of_told k d i hd hi
      obtain rfl : d'' = d' := by simpa [hd''] using hd'
      have hkey : key = d''.remote := (htold.remote.trans hremote).symm
      refine ⟨_, by rw [he.remote?, if_pos hkey], ?_⟩
      obtain ⟨r₀, hr₀, hatt⟩ := h.attached hd
      have hstarted : d.started = true := by
        cases hatt with
        | idle hnone => simp [hnone] at hsub
        | following _ _ _ hstarted => exact hstarted
      exact htold.attached hstarted hsub (mem_of_mem_told hi) rfl
    · have hd : s.device? k = some d' := by
        rw [← he.device?_of_not_told k fun i hi => htold ⟨i, hi⟩]
        exact hd'
      obtain ⟨r₀, hr₀, hatt⟩ := h.attached hd
      by_cases hkey : key = d'.remote
      · subst hkey
        obtain rfl : r = r₀ := by simpa [hr] using hr₀
        refine ⟨_, by rw [he.remote?, if_pos rfl], ?_⟩
        cases hatt with
        | idle hsub hstarted hstatus hmodel => exact .idle hsub hstarted hstatus hmodel
        | following id state' hsub hstarted hmem hstatus hmodel =>
          -- A device of this remote is passed over only if an observer before it fails.
          refine .following id state' hsub hstarted hmem hstatus hmodel ?_
          intro hp
          have hnone : ∀ e ∈ r.observers, breaksAt state upset e = false := by
            simpa [List.any_eq_false] using hp
          exact absurd ⟨id, (told_eq_self hnone).symm ▸ hmem⟩ htold
      · exact ⟨r₀, by rw [he.remote?, if_neg hkey, hr₀], hatt⟩

theorem Sound.setState (h : s.Sound) (key : RemoteKey) (state : Connection)
    (upset : List ObserverId) : (s.setState key state upset).site.Sound := by
  rcases setState_cases s key state upset with ⟨hsite, -⟩ | ⟨r, hr, -, -, he⟩
  · rwa [hsite]
  · exact he.sound h hr

theorem Started.sound {e : Effect (Except StartError Unit)} (h : s.Sound)
    (hd : s.device? k = some d) (hr : s.remote? d.remote = some r)
    (hsub : d.subscription = none) (he : Started s k d r e) : e.site.Sound := by
  obtain ⟨d', hd', htold⟩ := he.device?
  have hnew : ∀ {key' r' id}, s.remote? key' = some r' → (id, .device k) ∉ r'.observers := by
    intro key' r' id hr' hmem
    obtain ⟨d₀, hd₀, -, hsub₀⟩ := h.observed hr' hmem
    obtain rfl : d = d₀ := by simpa [hd] using hd₀
    simp [hsub] at hsub₀
  constructor
  · intro key' r' hr'
    rw [he.remote?] at hr'
    split at hr'
    · cases hr'
      exact (h.remote hr).gain _
    · exact h.remote hr'
  · intro key' r' id k' hr' hmem
    have hold : ∀ {r₀}, s.remote? key' = some r₀ → (id, .device k') ∈ r₀.observers →
        ∃ d, e.site.device? k' = some d ∧ d.remote = key' ∧ d.subscription = some id := by
      intro r₀ hr₀ hmem₀
      have hne : k' ≠ k := fun heq => hnew hr₀ (heq ▸ hmem₀)
      rw [he.device?_of_ne k' hne]
      exact h.observed hr₀ hmem₀
    rw [he.remote?] at hr'
    split at hr'
    · next heq =>
      cases hr'
      subst heq
      rcases Remote.mem_observers_gain.1 hmem with hmem | hmem
      · exact hold hr hmem
      · cases hmem
        exact ⟨_, hd', htold.remote, rfl⟩
    · exact hold hr' hmem
  · intro k' d₀ hd₀
    by_cases hk : k' = k
    · subst hk
      rw [hd'] at hd₀
      cases hd₀
      have hremote : d.remote = d'.remote := htold.remote.symm
      refine ⟨_, by rw [he.remote?]; exact if_pos hremote, ?_⟩
      refine .following r.nextObserver r.state rfl htold.started
        (Remote.mem_observers_gain.2 (Or.inr rfl)) htold.status ?_ fun _ => rfl
      change d'.model.loaded = _
      rw [htold.model, Model.loaded_follow]
    · rw [he.device?_of_ne k' hk] at hd₀
      obtain ⟨r₀, hr₀, hatt⟩ := h.attached hd₀
      by_cases hkey : d.remote = d₀.remote
      · obtain rfl : r = r₀ := by simpa [← hkey, hr] using hr₀
        refine ⟨r.gain (.device k), by rw [he.remote?, if_pos hkey], ?_⟩
        apply hatt.of_remote
        · intro id hmem
          exact Remote.mem_observers_gain.2 (Or.inl hmem)
        · intro hp
          exact ⟨hp, rfl⟩
      · exact ⟨r₀, by rw [he.remote?, if_neg hkey, hr₀], hatt⟩

theorem Sound.subscription_eq_none (h : s.Sound) (hd : s.device? k = some d)
    (hs : d.started = false) : d.subscription = none := by
  obtain ⟨r, -, hatt⟩ := h.attached hd
  cases hatt with
  | idle hsub => exact hsub
  | following _ _ _ hstarted => simp [hs] at hstarted

/-- Starting a device is its first start, or nothing happens. -/
theorem Sound.start_cases (h : s.Sound) (k : DeviceKey) :
    ((s.start k).site = s ∧ (s.start k).trace.calls = [] ∧
        (s.start k).result ≠ .error .observerFailed) ∨
      ∃ d r, s.device? k = some d ∧ s.remote? d.remote = some r ∧ r.poisoned = false ∧
        d.started = false ∧ d.subscription = none ∧ Started s k d r (s.start k) := by
  cases hd : s.device? k with
  | none =>
    rw [start_of_dangling hd]
    exact Or.inl ⟨rfl, rfl, by simp⟩
  | some d =>
    obtain ⟨r, hr, -⟩ := h.attached hd
    by_cases hp : r.poisoned = true
    · rw [start_of_poisoned hd hr hp]
      exact Or.inl ⟨rfl, rfl, by simp⟩
    · have hp : r.poisoned = false := by simpa using hp
      by_cases hs : d.started = true
      · rw [start_of_started hd hr hp hs]
        exact Or.inl ⟨rfl, rfl, by simp⟩
      · have hs : d.started = false := by simpa using hs
        have hsub := h.subscription_eq_none hd hs
        exact Or.inr ⟨d, r, rfl, hr, hp, hs, hsub, started_start hd hr hp hs hsub⟩

theorem Sound.start (h : s.Sound) (k : DeviceKey) : (s.start k).site.Sound := by
  rcases h.start_cases k with ⟨hsite, -⟩ | ⟨d, r, hd, hr, -, -, hsub, he⟩
  · rwa [hsite]
  · exact he.sound h hd hr hsub

/-- A remote loses a device that is dropped, and no other. -/
theorem Sound.exists_remote?_dropDevice (h : s.Sound) (hd : s.device? k = some d)
    (hr : s.remote? key = some r) :
    ∃ r', (s.dropDevice k).1.remote? key = some r' ∧ r'.Sound ∧ r'.state = r.state ∧
      r'.poisoned = r.poisoned ∧
      ∀ i k', (i, .device k') ∈ r'.observers ↔ (i, .device k') ∈ r.observers ∧ k' ≠ k := by
  have hsub : ∀ i, (i, .device k) ∈ r.observers → d.remote = key ∧ d.subscription = some i := by
    intro i hmem
    obtain ⟨d₀, hd₀, hkey, hsub⟩ := h.observed hr hmem
    obtain rfl : d = d₀ := by simpa [hd] using hd₀
    exact ⟨hkey, hsub⟩
  have hkeep : (∀ i, d.remote = key → d.subscription ≠ some i) →
      ∀ i k', (i, .device k') ∈ r.observers ↔ (i, .device k') ∈ r.observers ∧ k' ≠ k := by
    intro hno i k'
    constructor
    · intro hmem
      refine ⟨hmem, ?_⟩
      rintro rfl
      exact hno i (hsub i hmem).1 (hsub i hmem).2
    · exact And.left
  rw [remote?_dropDevice hd]
  cases hid : d.subscription with
  | none =>
    exact ⟨r, hr, h.remote hr, rfl, rfl, hkeep fun i _ => by simp [hid]⟩
  | some id =>
    by_cases hkey : d.remote = key
    · refine ⟨r.lose id, by simp [hkey, hr], (h.remote hr).lose id, rfl, rfl, ?_⟩
      intro i k'
      rw [Remote.mem_observers_lose]
      apply and_congr_right
      intro hmem
      apply not_congr
      constructor
      · intro heq
        -- The device stands under its number, and a number stands for one observer.
        obtain ⟨r₀, hr₀, hatt⟩ := h.attached hd
        obtain rfl : r = r₀ := by simpa [hkey, hr] using hr₀
        cases hatt with
        | idle hnone => simp [hid] at hnone
        | following id₀ _ hsome _ hmem₀ =>
          obtain rfl : id = id₀ := by simpa [hid] using hsome
          have := (h.remote hr).eq_of_mem hmem hmem₀ heq
          exact Observer.device.inj (Prod.mk.inj this).2
      · rintro rfl
        simpa [hid] using (hsub i hmem).2.symm
    · exact ⟨r, by simp [hkey, hr], h.remote hr, rfl, rfl, hkeep fun i heq => absurd heq hkey⟩

theorem remote?_dropDevice_eq_none (h : s.remote? key = none) :
    (s.dropDevice k).1.remote? key = none := by
  cases hd : s.device? k with
  | none => simpa [Site.dropDevice, hd] using h
  | some d =>
    rw [remote?_dropDevice hd]
    cases d.subscription <;> simp [h]

/-! ## The devices that exist -/

theorem Sound.isSome_device?_setState (h : s.Sound) (key : RemoteKey) (state : Connection)
    (upset : List ObserverId) (k : DeviceKey) :
    ((s.setState key state upset).site.device? k).isSome = (s.device? k).isSome := by
  rcases setState_cases s key state upset with ⟨hsite, -⟩ | ⟨r, hr, -, -, he⟩
  · rw [hsite]
  · by_cases htold : ∃ i, (i, .device k) ∈ told state upset r.observers
    · obtain ⟨i, hi⟩ := htold
      obtain ⟨d, hd, -⟩ := h.observed hr (mem_of_mem_told hi)
      obtain ⟨d', hd', -⟩ := he.device?_of_told k d i hd hi
      rw [hd, hd']
      rfl
    · rw [he.device?_of_not_told k fun i hi => htold ⟨i, hi⟩]

theorem device?_subscribe_recorder (s : Site) (key : RemoteKey) (label : Text)
    (failsOn : Option Connection) (k : DeviceKey) :
    (s.subscribe key (.recorder label failsOn)).site.device? k = s.device? k := by
  cases hresult : (s.subscribe key (.recorder label failsOn)).result with
  | ok id =>
    obtain ⟨r, -, -, -, hsite, -⟩ := subscribe_recorder_eq_ok hresult
    simp [hsite]
  | error panic =>
    rcases subscribe_recorder_eq_error hresult with ⟨hsite, -⟩ | ⟨r, -, -, -, -, hsite, -⟩
    · rw [hsite]
    · simp [hsite]

theorem Sound.isSome_device?_start (h : s.Sound) (k k' : DeviceKey) :
    ((s.start k).site.device? k').isSome = (s.device? k').isSome := by
  rcases h.start_cases k with ⟨hsite, -⟩ | ⟨d, r, hd, -, -, -, -, he⟩
  · rw [hsite]
  · by_cases hk : k' = k
    · subst hk
      obtain ⟨d', hd', -⟩ := he.device?
      rw [hd, hd']
      rfl
    · rw [he.device?_of_ne k' hk]

theorem Sound.dropDevice (h : s.Sound) (k : DeviceKey) : (s.dropDevice k).1.Sound := by
  cases hd : s.device? k with
  | none => simpa [Site.dropDevice, hd] using h
  | some d =>
    have hback : ∀ {key r'}, (s.dropDevice k).1.remote? key = some r' →
        ∃ r, s.remote? key = some r ∧ r'.Sound ∧
          ∀ i k', (i, .device k') ∈ r'.observers → (i, .device k') ∈ r.observers ∧ k' ≠ k := by
      intro key r' hr'
      cases hr : s.remote? key with
      | none => simp [remote?_dropDevice_eq_none hr] at hr'
      | some r =>
        obtain ⟨r₁, hr₁, hsound, -, -, hmem⟩ := h.exists_remote?_dropDevice hd hr
        obtain rfl : r₁ = r' := by simpa [hr₁] using hr'
        exact ⟨r, rfl, hsound, fun i k' => (hmem i k').1⟩
    constructor
    · intro key r' hr'
      obtain ⟨-, -, hsound, -⟩ := hback hr'
      exact hsound
    · intro key r' i k' hr' hmem
      obtain ⟨r, hr, -, hobs⟩ := hback hr'
      obtain ⟨hmem, hne⟩ := hobs i k' hmem
      rw [device?_dropDevice hd, if_neg (Ne.symm hne)]
      exact h.observed hr hmem
    · intro k' d' hd'
      rw [device?_dropDevice hd] at hd'
      split at hd'
      · simp at hd'
      · next hne =>
        obtain ⟨r, hr, hatt⟩ := h.attached hd'
        obtain ⟨r', hr', -, hstate, hpoisoned, hmem⟩ := h.exists_remote?_dropDevice hd hr
        exact ⟨r', hr', hatt.of_remote (fun i hi => (hmem i k').2 ⟨hi, Ne.symm hne⟩)
          fun hp => ⟨hpoisoned ▸ hp, hstate⟩⟩

end Site

end DeviceTwin
