import DeviceTwin.Proofs.Bench.Transition
import DeviceTwin.Proofs.Site.RemoteStep

/-!
# Sound benches

A bench is sound if its site is, and if its names lead somewhere: handles to remotes, names of
devices to the devices that exist, one name to each, and subscriptions to numbers of recorders.
That a subscription never has the number of a device is what keeps unsubscribing from
disconnecting a device.

Every transition keeps a bench sound (`Transition.sound`), and to every remote one of the steps of
`Remote.Step` happens (`Transition.remote`).  So every bench that actions lead to is sound.
-/

namespace DeviceTwin

/-! ## One name for each thing -/

/-- Each thing that satisfies `p` has one name, and names stand for nothing else. -/
structure Named.Covers {α : Type} (n : Named α) (p : α → Prop) : Prop where
  leads : ∀ {name a}, n.get? name = some a → p a
  named : ∀ {a}, p a → ∃ name, n.get? name = some a
  injective : ∀ {name other a}, n.get? name = some a → n.get? other = some a → name = other

namespace Named.Covers

variable {α : Type} {n : Named α} {p q : α → Prop}

theorem congr (h : n.Covers p) (hpq : ∀ a, q a ↔ p a) : n.Covers q where
  leads hname := (hpq _).2 (h.leads hname)
  named ha := h.named ((hpq _).1 ha)
  injective := h.injective

/-- A new thing takes a name, and what had that name is given up. -/
theorem put (h : n.Covers p) (name : Text) {a : α} (ha : ¬ p a) :
    (n.put name a).Covers fun x => n.get? name ≠ some x ∧ (x = a ∨ p x) where
  leads {other x} hother := by
    rw [get?_put] at hother
    split at hother
    · cases hother
      exact ⟨fun hname => ha (h.leads hname), Or.inl rfl⟩
    · next hne => exact ⟨fun hname => hne (h.injective hname hother), Or.inr (h.leads hother)⟩
  named {x} hx := by
    obtain ⟨hname, rfl | hp⟩ := hx
    · exact ⟨name, by simp⟩
    · obtain ⟨other, hother⟩ := h.named hp
      have hne : name ≠ other := fun heq => hname (heq ▸ hother)
      exact ⟨other, by simp [hne, hother]⟩
  injective {x y z} hx hy := by
    have hfresh : ∀ {other}, n.get? other ≠ some a := fun hother => ha (h.leads hother)
    rw [get?_put] at hx hy
    split at hx <;> split at hy
    · next hx' hy' => exact hx'.symm.trans hy'
    · cases hx
      exact absurd hy hfresh
    · cases hy
      exact absurd hx hfresh
    · exact h.injective hx hy

theorem erase (h : n.Covers p) {name : Text} {a : α} (hname : n.get? name = some a) :
    (n.erase name).Covers fun x => a ≠ x ∧ p x where
  leads {other x} hother := by
    rw [get?_erase] at hother
    split at hother
    · simp at hother
    · next hne => exact ⟨fun heq => hne (h.injective hname (heq ▸ hother)), h.leads hother⟩
  named {x} hx := by
    obtain ⟨other, hother⟩ := h.named hx.2
    have hne : name ≠ other := by
      rintro rfl
      exact hx.1 (Option.some.inj (hname.symm.trans hother))
    exact ⟨other, by simp [hne, hother]⟩
  injective {x y z} hx hy := by
    rw [get?_erase] at hx hy
    split at hx <;> split at hy
    · simp at hx
    · simp at hx
    · simp at hy
    · exact h.injective hx hy

end Named.Covers

/-! ## What no operation takes back -/

/-- The remotes of a site are those of an earlier one, and any device among their observers that
was not there before has a new number. -/
def Site.Extends (s s' : Site) : Prop :=
  ∀ key r, s.remote? key = some r → ∃ r', s'.remote? key = some r' ∧
    r.nextObserver ≤ r'.nextObserver ∧
      ∀ id k, (id, .device k) ∈ r'.observers →
        (id, .device k) ∈ r.observers ∨ r.nextObserver ≤ id

theorem Site.extends_of_step {s s' : Site}
    (h : ∀ key r, s.remote? key = some r →
      ∃ r' calls, s'.remote? key = some r' ∧ Remote.Step key r calls r') : s.Extends s' := by
  intro key r hr
  obtain ⟨r', calls, hr', hstep⟩ := h key r hr
  refine ⟨r', hr', hstep.nextObserver_le, ?_⟩
  intro id k hmem
  rcases hstep.mem_observers hmem with hmem | heq
  · exact Or.inl hmem
  · exact Or.inr (Nat.le_of_eq heq.symm)

theorem Site.extends_modifyRemote_gain (s : Site) (key : RemoteKey) {label : Text}
    {failsOn : Option Connection} :
    s.Extends (s.modifyRemote key (·.gain (.recorder label failsOn))) := by
  intro other r hr
  by_cases h : key = other
  · refine ⟨r.gain (.recorder label failsOn), by simp [h, hr], Nat.le_succ _, ?_⟩
    intro id k hmem
    exact Or.inl (by simpa [Remote.mem_observers_gain] using hmem)
  · exact ⟨r, by simp [h, hr], Nat.le_refl _, fun _ _ => Or.inl⟩

/-- A subscription has a number that its remote has given to a recorder. -/
def Subscription.Leads (s : Subscription) (site : Site) : Prop :=
  ∃ r, site.remote? s.remote = some r ∧ s.observer < r.nextObserver ∧
    ∀ k, (s.observer, .device k) ∉ r.observers

theorem Subscription.Leads.mono {s : Subscription} {site site' : Site} (h : s.Leads site)
    (hext : site.Extends site') : s.Leads site' := by
  obtain ⟨r, hr, hlt, hnot⟩ := h
  obtain ⟨r', hr', hle, hobs⟩ := hext _ r hr
  refine ⟨r', hr', Nat.lt_of_lt_of_le hlt hle, ?_⟩
  intro k hmem
  rcases hobs s.observer k hmem with hmem | hge
  · exact hnot k hmem
  · exact absurd hlt (Nat.not_lt.2 hge)

namespace Bench

/-- The site is sound and all names lead somewhere. -/
structure Sound (b : Bench) : Prop where
  site : b.site.Sound
  handle : ∀ {name key}, b.handles.get? name = some key → ∃ r, b.site.remote? key = some r
  devices : b.devices.Covers fun key => ∃ d, b.site.device? key = some d
  subscription : ∀ {name s}, b.subscriptions.get? name = some s → s.Leads b.site

variable {b b' : Bench} {a : Action} {o : Outcome}

theorem sound_empty : ({} : Bench).Sound where
  site := Site.sound_empty
  handle h := by simp [Named.get?] at h
  devices :=
    { leads := fun h => by simp [Named.get?] at h
      named := fun ⟨d, hd⟩ => by simp [Site.device?] at hd
      injective := fun h => by simp [Named.get?] at h }
  subscription h := by simp [Named.get?] at h

theorem Sound.exists_remote?_of_remoteKey? (h : b.Sound) {holder : Holder} {key : RemoteKey}
    (hkey : b.remoteKey? holder = some key) : ∃ r, b.site.remote? key = some r := by
  cases holder with
  | handle name => exact h.handle hkey
  | device name =>
    cases hname : b.devices.get? name with
    | none => simp [remoteKey?, hname] at hkey
    | some k =>
      obtain ⟨d, hd⟩ := h.devices.leads hname
      obtain ⟨r, hr, -⟩ := h.site.attached hd
      obtain rfl : d.remote = key := by simpa [remoteKey?, hname, hd] using hkey
      exact ⟨r, hr⟩

/-! ## Dropping what has been replaced -/

section Replaced

variable (b) (s : Option Subscription) (k : Option DeviceKey)

@[simp] theorem handles_dropSubscription? : (b.dropSubscription? s).1.handles = b.handles := by
  cases s with
  | none => rfl
  | some s => simp only [dropSubscription?, dropSubscription]; split <;> rfl

@[simp] theorem devices_dropSubscription? : (b.dropSubscription? s).1.devices = b.devices := by
  cases s with
  | none => rfl
  | some s => simp only [dropSubscription?, dropSubscription]; split <;> rfl

@[simp] theorem subscriptions_dropSubscription? :
    (b.dropSubscription? s).1.subscriptions = b.subscriptions := by
  cases s with
  | none => rfl
  | some s => simp only [dropSubscription?, dropSubscription]; split <;> rfl

@[simp] theorem device?_dropSubscription? (key : DeviceKey) :
    (b.dropSubscription? s).1.site.device? key = b.site.device? key := by
  cases s with
  | none => rfl
  | some s => simp only [dropSubscription?, dropSubscription]; split <;> simp

@[simp] theorem size_dropSubscription? : (b.dropSubscription? s).1.site.size = b.site.size := by
  cases s with
  | none => rfl
  | some s => simp only [dropSubscription?, dropSubscription]; split <;> simp

@[simp] theorem calls_dropSubscription? : (b.dropSubscription? s).2.calls = [] := by
  cases s with
  | none => rfl
  | some s => simp only [dropSubscription?, dropSubscription]; split <;> simp

@[simp] theorem handles_dropDevice? : (b.dropDevice? k).1.handles = b.handles := by
  cases k <;> rfl

@[simp] theorem devices_dropDevice? : (b.dropDevice? k).1.devices = b.devices := by
  cases k <;> rfl

@[simp] theorem subscriptions_dropDevice? :
    (b.dropDevice? k).1.subscriptions = b.subscriptions := by
  cases k <;> rfl

@[simp] theorem size_dropDevice? : (b.dropDevice? k).1.site.size = b.site.size := by
  cases k with
  | none => rfl
  | some k => exact Site.size_dropDevice b.site k

theorem size_addDevice (b : Bench) (name : Text) (remote : RemoteKey)
    (channels : List ChannelKey) : (b.addDevice name remote channels).site.size =
      (b.site.remotes.length, b.site.devices.length + 1) := by
  simp [addDevice, Site.addDevice, Site.size]

theorem remote?_addDevice (b : Bench) (name : Text) (remote : RemoteKey)
    (channels : List ChannelKey) (key : RemoteKey) :
    (b.addDevice name remote channels).site.remote? key = b.site.remote? key := by
  simp [addDevice, Site.addDevice, Site.remote?]

theorem device?_addDevice (b : Bench) (name : Text) (remote : RemoteKey)
    (channels : List ChannelKey) (k : DeviceKey) :
    (b.addDevice name remote channels).site.device? k =
      if k = b.site.devices.length then
        some { remote, senders := (b.site.addSenders channels).2 }
      else b.site.device? k := by
  change ((b.site.addSenders channels).1.addDevice remote _).1.device? k = _
  rw [Site.device?_addDevice]
  simp [Site.device?]

/-- A device stays where it is when a new one is made. -/
theorem device?_addDevice_of_some {b : Bench} {k : DeviceKey} {d : Device}
    (hd : b.site.device? k = some d) (name : Text) (remote : RemoteKey)
    (channels : List ChannelKey) :
    (b.addDevice name remote channels).site.device? k = some d := by
  have hne : k ≠ b.site.devices.length := Nat.ne_of_lt (Site.lt_length_of_device? hd)
  rw [device?_addDevice, if_neg hne, hd]

/-- Dropping a subscription takes at most its own observer from a remote. -/
theorem remote?_dropSubscription? {key : RemoteKey} {r : Remote}
    (hr : b.site.remote? key = some r) :
    (b.dropSubscription? s).1.site.remote? key = some r ∨
      ∃ sub, s = some sub ∧ sub.remote = key ∧
        (b.dropSubscription? s).1.site.remote? key = some (r.lose sub.observer) := by
  cases s with
  | none => exact Or.inl hr
  | some sub =>
    simp only [dropSubscription?, dropSubscription]
    by_cases hheld : b.isHeld sub.remote
    · simp only [hheld, if_true, Site.remote?_unsubscribe]
      by_cases h : sub.remote = key
      · exact Or.inr ⟨sub, rfl, h, by simp [h, hr]⟩
      · exact Or.inl (by simp [h, hr])
    · simp only [hheld]
      exact Or.inl hr

end Replaced

theorem site_dropSubscription_of_held {s : Subscription} (hheld : b.isHeld s.remote = true) :
    (b.dropSubscription s).1.site = (b.site.unsubscribe s.remote s.observer).1 := by
  rw [dropSubscription, if_pos hheld]

/-- Adding an observer makes no difference to what holds the remotes. -/
theorem isHeld_subscribe {key : RemoteKey} {name : Text} {failsOn : Option Connection}
    {id : ObserverId} (hresult : (b.site.subscribe key (.recorder name failsOn)).result = .ok id)
    {subscriptions : Named Subscription} {other : RemoteKey} :
    Bench.isHeld { b with
      site := (b.site.subscribe key (.recorder name failsOn)).site
      subscriptions } other = b.isHeld other := by
  obtain ⟨r, -, -, -, hsite, -⟩ := Site.subscribe_recorder_eq_ok hresult
  rw [Bench.isHeld, Bench.isHeld, hsite]
  rfl

theorem Sound.site_dropSubscription? (h : b.site.Sound) {s : Option Subscription}
    (hs : ∀ sub, s = some sub → sub.Leads b.site) :
    (b.dropSubscription? s).1.site.Sound := by
  cases s with
  | none => exact h
  | some sub =>
    obtain ⟨r, hr, -, hnot⟩ := hs sub rfl
    simp only [dropSubscription?, dropSubscription]
    split
    · apply h.unsubscribe
      intro r' k hr'
      obtain rfl : r = r' := by simpa [hr] using hr'
      exact hnot k
    · exact h

/-! ## What happens to one remote -/

/-- To a remote that exists, a transition is one step.  Only an observer that fails poisons it,
and only being connected or disconnected changes its state. -/
theorem Transition.remote (ht : Transition b a b' o) (h : b.Sound) {key : RemoteKey} {r : Remote}
    (hr : b.site.remote? key = some r) :
    ∃ r', b'.site.remote? key = some r' ∧ Remote.Step key r (o.trace.callsOf key) r' ∧
      (r'.poisoned = r.poisoned ∨ o.answer = .panicked .observerFailed) ∧
        (r'.state = r.state ∨ ∃ holder state upset, a = .setState holder state upset ∧
          b.remoteKey? holder = some key) := by
  cases ht with
  | idle => exact ⟨r, hr, .quiet, Or.inl rfl, Or.inl rfl⟩
  | channels a answer remotes =>
    exact ⟨r, by simpa [Site.remote?, remotes] using hr, .quiet, Or.inl rfl, Or.inl rfl⟩
  | cloneRemote | dropRemote => exact ⟨r, hr, .quiet, Or.inl rfl, Or.inl rfl⟩
  | newRemote handle name =>
    have hne : key ≠ b.site.remotes.length := Nat.ne_of_lt (Site.lt_length_of_remote? hr)
    exact ⟨r, by simpa [Site.remote?_addRemote, hne] using hr, .quiet, Or.inl rfl, Or.inl rfl⟩
  | @newDevice device remote channels key₀ keys hkey =>
    have hadded : (b.addDevice device key₀ keys).site.remote? key = some r := by
      rw [remote?_addDevice, hr]
    cases b.devices.get? device with
    | none => exact ⟨r, hadded, .quiet, Or.inl rfl, Or.inl rfl⟩
    | some old =>
      obtain ⟨r', hr', hstep, hp, hs⟩ := Site.step_dropDevice hadded old
      exact ⟨r', hr', hstep, Or.inl hp, Or.inl hs⟩
  | @dropDevice device k hkey =>
    obtain ⟨r', hr', hstep, hp, hs⟩ := Site.step_dropDevice hr k
    exact ⟨r', hr', hstep, Or.inl hp, Or.inl hs⟩
  | @start device k hkey answer =>
    obtain ⟨r', hr', hstep, hp, hs⟩ := Site.step_start h.site hr k
    exact ⟨r', hr', hstep, Or.inl hp, Or.inl hs⟩
  | @setState remote state upset key₀ hkey answer =>
    obtain ⟨r', hr', hstep, hp, hs⟩ := Site.step_setState key₀ hr state upset
    refine ⟨r', hr', hstep, hp.imp_right ?_, hs.imp_right ?_⟩
    · intro hresult
      simp [conclude, hresult]
    · rintro rfl
      exact ⟨remote, state, upset, rfl, hkey⟩
  | refused subscription remote failsOn hkey result =>
    obtain ⟨r', hr', hstep, hp, hs⟩ := Site.step_subscribe_of_error hr result
    exact ⟨r', hr', hstep, hp.imp_right fun hpanic => congrArg Answer.panicked hpanic, Or.inl hs⟩
  | @subscribed subscription remote failsOn key₀ hkey id result b₁ hb₁ =>
    obtain ⟨r₀, hr₀, hp, rfl, hsite, hcalls⟩ := Site.subscribe_recorder_eq_ok result
    have hremote : b₁.site.remote? key = if key₀ = key
        then some (r.gain (.recorder subscription failsOn)) else some r := by
      rw [hb₁, hsite, Site.remote?_modifyRemote, hr]
      by_cases hk : key₀ = key <;> simp [hk]
    simp only [Trace.callsOf_append, Trace.callsOf_of_calls_eq_nil (calls_dropSubscription? _ _),
      List.append_nil]
    rw [Trace.callsOf, hcalls]
    by_cases hk : key₀ = key
    · subst hk
      obtain rfl : r₀ = r := by simpa [hr₀] using hr
      rw [if_pos rfl] at hremote
      rcases remote?_dropSubscription? b₁ (b.subscriptions.get? subscription) hremote with
        hsame | ⟨old, hold, hkey₀, hlost⟩
      · exact ⟨_, hsame, by simpa using .gained _ hp, Or.inl rfl, Or.inl rfl⟩
      · obtain ⟨r₁, hr₁, hlt, -⟩ := h.subscription hold
        obtain rfl : r₀ = r₁ := by simpa [hkey₀, hr₀] using hr₁
        exact ⟨_, hlost, by simpa using .exchanged _ hp old.observer hlt,
          Or.inl rfl, Or.inl rfl⟩
    · rw [if_neg hk] at hremote
      have hfilter : [(⟨key₀, r₀.nextObserver, .recorder subscription failsOn, r₀.state⟩ :
          Call)].filter (·.remote = key) = [] := by simp [hk]
      rw [hfilter]
      rcases remote?_dropSubscription? b₁ (b.subscriptions.get? subscription) hremote with
        hsame | ⟨old, -, -, hlost⟩
      · exact ⟨_, hsame, .quiet, Or.inl rfl, Or.inl rfl⟩
      · exact ⟨_, hlost, .lost old.observer, Or.inl rfl, Or.inl rfl⟩
  | @unsubscribe subscription s hs =>
    have hcalls := calls_dropSubscription? b (some s)
    rw [show (b.dropSubscription s).2 = (b.dropSubscription? (some s)).2 from rfl,
      Trace.callsOf_of_calls_eq_nil hcalls]
    rcases remote?_dropSubscription? b (some s) hr with hsame | ⟨_, -, -, hlost⟩
    · exact ⟨r, hsame, .quiet, Or.inl rfl, Or.inl rfl⟩
    · exact ⟨_, hlost, .lost _, Or.inl rfl, Or.inl rfl⟩

/-- A transition makes one remote, or one device, or nothing of that kind. -/
theorem Transition.size (ht : Transition b a b' o) :
    b'.site.size = b.site.size ∨ (∃ name, b'.site = (b.site.addRemote name).1) ∨
      b'.site.size = (b.site.remotes.length, b.site.devices.length + 1) := by
  cases ht with
  | idle | cloneRemote | dropRemote => exact Or.inl rfl
  | channels a answer remotes devices => exact Or.inl (by simp [Site.size, remotes, devices])
  | newRemote handle name => exact Or.inr (Or.inl ⟨name, rfl⟩)
  | newDevice device remote channels keys =>
    exact Or.inr (Or.inr ((size_dropDevice? _ _).trans (size_addDevice b _ _ _)))
  | dropDevice => exact Or.inl (Site.size_dropDevice _ _)
  | start => exact Or.inl (Site.size_start _ _)
  | setState => exact Or.inl (Site.size_setState _ _ _ _)
  | refused => exact Or.inl (Site.size_subscribe _ _ _)
  | subscribed _ _ _ _ _ hb₁ =>
    refine Or.inl ((size_dropSubscription? _ _).trans ?_)
    rw [hb₁]
    exact Site.size_subscribe _ _ _
  | @unsubscribe subscription s => exact Or.inl (size_dropSubscription? b (some s))

/-- A remote that has not been there before is disconnected and has no observers. -/
theorem Transition.remote_new (ht : Transition b a b' o) {key : RemoteKey} {r : Remote}
    (hr : b.site.remote? key = none) (hr' : b'.site.remote? key = some r) :
    ∃ name, r = { name } := by
  have hlength : b.site.remotes.length ≤ key := List.getElem?_eq_none_iff.1 hr
  have hlt : key < b'.site.remotes.length := Site.lt_length_of_remote? hr'
  rcases ht.size with hsame | ⟨name, hsite⟩ | hsame
  · exact absurd (congrArg Prod.fst hsame) (Nat.ne_of_gt (Nat.lt_of_le_of_lt hlength hlt))
  · rw [hsite, Site.remote?_addRemote] at hr'
    split at hr'
    · exact ⟨name, (Option.some.inj hr').symm⟩
    · simp [hr] at hr'
  · exact absurd (congrArg Prod.fst hsame) (Nat.ne_of_gt (Nat.lt_of_le_of_lt hlength hlt))

theorem Transition.extension (ht : Transition b a b' o) (h : b.Sound) :
    b.site.Extends b'.site := by
  apply Site.extends_of_step
  intro key r hr
  obtain ⟨r', hr', hstep, -⟩ := ht.remote h hr
  exact ⟨r', _, hr', hstep⟩

/-! ## Transitions keep a bench sound -/

/-- A new device does no harm, even before an old one makes room for it. -/
theorem Sound.site_addDevice (h : b.Sound) {holder : Holder} {key : RemoteKey}
    (hkey : b.remoteKey? holder = some key) (name : Text) (channels : List ChannelKey) :
    (b.addDevice name key channels).site.Sound := by
  obtain ⟨r, hr⟩ := h.exists_remote?_of_remoteKey? hkey
  have hsenders : (b.site.addSenders channels).1.Sound := h.site.of_eq (by simp) (by simp)
  exact hsenders.addDevice (by simpa [Site.remote?] using hr) _

theorem Transition.site_sound (ht : Transition b a b' o) (h : b.Sound) : b'.site.Sound := by
  cases ht with
  | idle => exact h.site
  | channels a answer remotes devices => exact h.site.of_eq remotes devices
  | cloneRemote | dropRemote => exact h.site
  | newRemote handle name => exact h.site.addRemote name
  | @newDevice device remote channels key keys hkey =>
    have hadded := h.site_addDevice hkey device keys
    cases b.devices.get? device with
    | none => exact hadded
    | some old => exact hadded.dropDevice old
  | dropDevice device hkey => exact h.site.dropDevice _
  | start device hkey answer => exact h.site.start _
  | setState remote state upset hkey answer => exact h.site.setState _ state upset
  | refused subscription remote failsOn => exact h.site.subscribe_recorder _ _ _
  | @subscribed subscription remote failsOn key hkey id result b₁ hb₁ =>
    have hsite : b₁.site.Sound := by
      rw [hb₁]
      exact h.site.subscribe_recorder _ _ _
    have hext : b.site.Extends b₁.site := by
      obtain ⟨r, hr, hp, -, hsite, -⟩ := Site.subscribe_recorder_eq_ok result
      rw [hb₁, hsite]
      exact Site.extends_modifyRemote_gain _ _
    exact Sound.site_dropSubscription? hsite fun sub hsub => (h.subscription hsub).mono hext
  | @unsubscribe subscription s hs =>
    exact Sound.site_dropSubscription? h.site fun sub hsub => h.subscription (hs.trans hsub)

/-- Each device that exists after a transition has one name. -/
theorem Transition.covers (ht : Transition b a b' o) (h : b.Sound) :
    b'.devices.Covers fun key => ∃ d, b'.site.device? key = some d := by
  have hsame : ∀ {site : Site}, (∀ k, (site.device? k).isSome = (b.site.device? k).isSome) →
      b.devices.Covers fun key => ∃ d, site.device? key = some d := by
    intro site hsite
    apply h.devices.congr
    intro k
    rw [← Option.isSome_iff_exists, ← Option.isSome_iff_exists, hsite k]
  cases ht with
  | idle | cloneRemote | dropRemote => exact h.devices
  | channels a answer remotes devices handles names =>
    rw [names]
    exact hsame fun k => by simp [Site.device?, devices]
  | newRemote => exact hsame fun k => by simp
  | start => exact hsame (h.site.isSome_device?_start _)
  | setState => exact hsame (h.site.isSome_device?_setState _ _ _)
  | refused => exact hsame fun k => by simp [Site.device?_subscribe_recorder]
  | subscribed _ _ _ _ _ hb₁ =>
    rw [devices_dropSubscription?, hb₁]
    exact hsame fun k => by simp [Site.device?_subscribe_recorder]
  | @unsubscribe subscription s hs =>
    have hnames := devices_dropSubscription? b (some s)
    refine hnames ▸ hsame ?_
    intro k
    exact congrArg Option.isSome (device?_dropSubscription? b (some s) k)
  | @newDevice name remote channels key keys hkey =>
    have hfresh : ¬ ∃ d, b.site.device? b.site.devices.length = some d := by
      simp [Site.device?_length]
    rw [devices_dropDevice?]
    apply (h.devices.put name hfresh).congr
    intro k
    cases hold : b.devices.get? name with
    | none =>
      rw [dropDevice?, device?_addDevice]
      by_cases hk : k = b.site.devices.length <;> simp [hk]
    | some old =>
      obtain ⟨d, hd⟩ := h.devices.leads hold
      have hne : old ≠ b.site.devices.length := Nat.ne_of_lt (Site.lt_length_of_device? hd)
      have hadded := device?_addDevice_of_some hd name key keys
      change (∃ d, ((b.addDevice name key keys).site.dropDevice old).1.device? k = some d) ↔ _
      rw [Site.device?_dropDevice hadded, device?_addDevice]
      by_cases hk : old = k
      · simp [hk]
      · by_cases hnew : k = b.site.devices.length <;> simp [hk, hnew, hne]
  | @dropDevice name key hkey =>
    obtain ⟨d, hd⟩ := h.devices.leads hkey
    apply (h.devices.erase hkey).congr
    intro k
    change (∃ d, (b.site.dropDevice key).1.device? k = some d) ↔ _
    rw [Site.device?_dropDevice hd]
    by_cases hk : key = k <;> simp [hk]

theorem Transition.exists_remote?_of_handle (ht : Transition b a b' o) (h : b.Sound)
    {name : Text} {key : RemoteKey} (hname : b'.handles.get? name = some key) :
    ∃ r, b'.site.remote? key = some r := by
  have hold : ∀ {name}, b.handles.get? name = some key → ∃ r, b'.site.remote? key = some r := by
    intro name hname
    obtain ⟨r, hr⟩ := h.handle hname
    obtain ⟨r', hr', -⟩ := ht.extension h key r hr
    exact ⟨r', hr'⟩
  cases ht with
  | idle | start | setState | refused => exact hold hname
  | channels a answer remotes devices handles => exact hold (handles ▸ hname)
  | cloneRemote handle source hkey =>
    rw [Named.get?_put] at hname
    split at hname
    · cases hname
      exact h.exists_remote?_of_remoteKey? hkey
    · exact hold hname
  | dropRemote handle =>
    rw [Named.get?_erase] at hname
    split at hname
    · simp at hname
    · exact hold hname
  | newRemote handle name =>
    rw [Named.get?_put] at hname
    split at hname
    · cases hname
      exact ⟨_, by rw [Site.remote?_addRemote, if_pos rfl]⟩
    · exact hold hname
  | newDevice =>
    rw [handles_dropDevice?] at hname
    exact hold hname
  | dropDevice => exact hold hname
  | subscribed _ _ _ _ _ hb₁ =>
    rw [handles_dropSubscription?, hb₁] at hname
    exact hold hname
  | @unsubscribe subscription s =>
    exact hold ((congrArg (·.get? name) (handles_dropSubscription? b (some s))).symm.trans hname)

theorem Transition.leads_of_subscription (ht : Transition b a b' o) (h : b.Sound)
    {name : Text} {s : Subscription} (hname : b'.subscriptions.get? name = some s) :
    s.Leads b'.site := by
  have hext := ht.extension h
  have hold : ∀ {name}, b.subscriptions.get? name = some s → s.Leads b'.site :=
    fun hname => (h.subscription hname).mono hext
  cases ht with
  | idle | cloneRemote | dropRemote | newRemote | dropDevice | start | setState | refused =>
    exact hold hname
  | channels a answer remotes devices handles names subscriptions =>
    exact hold (subscriptions ▸ hname)
  | newDevice =>
    rw [subscriptions_dropDevice?] at hname
    exact hold hname
  | @subscribed subscription remote failsOn key hkey id result b₁ hb₁ =>
    rw [subscriptions_dropSubscription?, hb₁, Named.get?_put] at hname
    split at hname
    · -- The new subscription has the number that the recorder got just now.
      cases hname
      obtain ⟨r, hr, hp, rfl, hsite, -⟩ := Site.subscribe_recorder_eq_ok result
      have hr₁ : b₁.site.remote? key = some (r.gain (.recorder subscription failsOn)) := by
        simp [hb₁, hsite, hr]
      have hnew : ∀ k, (r.nextObserver, .device k) ∉
          (r.gain (.recorder subscription failsOn)).observers := by
        intro k hmem
        rcases Remote.mem_observers_gain.1 hmem with hmem | hmem
        · exact absurd ((h.site.remote hr).numbered _ hmem) (Nat.lt_irrefl _)
        · simp at hmem
      rcases remote?_dropSubscription? b₁ (b.subscriptions.get? subscription) hr₁ with
        hsame | ⟨old, -, -, hlost⟩
      · exact ⟨_, hsame, Nat.lt_succ_self _, hnew⟩
      · refine ⟨_, hlost, Nat.lt_succ_self _, fun k hmem => hnew k ?_⟩
        exact (Remote.mem_observers_lose.1 hmem).1
    · exact hold hname
  | @unsubscribe subscription s' =>
    have hsubs := subscriptions_dropSubscription? b (some s')
    change ((b.dropSubscription? (some s')).1.subscriptions.erase subscription).get? name = _
      at hname
    rw [hsubs, Named.get?_erase] at hname
    split at hname
    · simp at hname
    · exact hold hname

theorem Transition.sound (ht : Transition b a b' o) (h : b.Sound) : b'.Sound where
  site := ht.site_sound h
  handle := ht.exists_remote?_of_handle h
  devices := ht.covers h
  subscription := ht.leads_of_subscription h

/-! ## Runs -/

theorem Sound.step (h : b.Sound) (a : Action) : (b.step a).1.Sound :=
  (transition_step b a).sound h

theorem Sound.run (h : b.Sound) (actions : List Action) : (b.run actions).1.Sound := by
  induction actions generalizing b with
  | nil => exact h
  | cons a rest ih => exact ih (h.step a)

theorem run_append (b : Bench) (first second : List Action) :
    b.run (first ++ second) =
      (((b.run first).1.run second).1, (b.run first).2 ++ ((b.run first).1.run second).2) := by
  induction first generalizing b with
  | nil => rfl
  | cons a rest ih => simp [Bench.run, ih]

theorem length_run (b : Bench) (actions : List Action) :
    (b.run actions).2.length = actions.length := by
  induction actions generalizing b with
  | nil => rfl
  | cons a rest ih => simp [Bench.run, ih]

/-- What holds of an empty bench and is kept by every action on a sound bench holds after every
run, where it may speak of the outcomes so far. -/
theorem run_induction {p : Bench → List Outcome → Prop} (hempty : p {} [])
    (hstep : ∀ b outcomes a, b.Sound → p b outcomes →
      p (b.step a).1 (outcomes ++ [(b.step a).2])) (actions : List Action) :
    p (Bench.run {} actions).1 (Bench.run {} actions).2 := by
  have hrun : ∀ (rest : List Action) (b : Bench) (outcomes : List Outcome), b.Sound →
      p b outcomes → p (b.run rest).1 (outcomes ++ (b.run rest).2) := by
    intro rest
    induction rest with
    | nil =>
      intro b outcomes _ hb
      simpa [Bench.run] using hb
    | cons a rest ih =>
      intro b outcomes hsound hb
      simpa [Bench.run] using ih _ _ (hsound.step a) (hstep b outcomes a hsound hb)
  simpa using hrun actions {} [] sound_empty hempty

theorem Reachable.sound (h : b.Reachable) : b.Sound := by
  obtain ⟨actions, rfl⟩ := h
  exact sound_empty.run actions

end Bench

end DeviceTwin
