import DeviceTwin.Proofs.Bench.Containment
import DeviceTwin.Proofs.Bench.Mirroring
import Mathlib.Data.List.Nodup

/-!
# Subscriptions and recorders

A subscription that is held by a name stands for one recorder among the observers of its remote.
`Remote.Registered` says that the recorders of a remote are exactly those, and `Enrolled` says so
of a bench.  It is claimed only of remotes that exist, since nobody takes out the recorder of a
subscription that is dropped later; a remote that does not exist any more never comes back
(`Transition.isHeld`).  Every action keeps a bench enrolled (`Transition.enrolled`).
-/

namespace DeviceTwin

/-! ## Names that occur once -/

namespace Named

variable {α : Type} {n : Named α} {name : Text} {a : α}

/-- No name occurs twice. -/
def Distinct (n : Named α) : Prop := (n.entries.map Prod.fst).Nodup

theorem Distinct.erase (h : n.Distinct) (name : Text) : (n.erase name).Distinct := by
  apply List.Nodup.sublist _ h
  exact List.filter_sublist.map Prod.fst

theorem Distinct.put (h : n.Distinct) (name : Text) (a : α) : (n.put name a).Distinct := by
  have hfree : name ∉ (n.erase name).entries.map Prod.fst := by
    simp [Named.erase]
  rw [Distinct, Named.put, List.map_append]
  apply List.nodup_append.2
  refine ⟨h.erase name, List.nodup_singleton _, ?_⟩
  rintro x hx y hy rfl
  obtain rfl : x = name := by simpa using hy
  exact hfree hx

/-- If no name occurs twice, every entry is what stands under its name. -/
theorem Distinct.get?_eq_some_iff (h : n.Distinct) :
    n.get? name = some a ↔ (name, a) ∈ n.entries := by
  constructor
  · intro hname
    obtain ⟨e, he, rfl⟩ := Option.map_eq_some_iff.1 hname
    obtain rfl : e.1 = name := by simpa using List.find?_some he
    exact List.mem_of_find?_eq_some he
  · intro hmem
    obtain ⟨e, he⟩ : ∃ e, n.entries.find? (·.1 = name) = some e := by
      rw [← Option.isSome_iff_exists, List.find?_isSome]
      exact ⟨(name, a), hmem, by simp⟩
    have hsame : e = (name, a) := by
      apply List.inj_on_of_nodup_map h (List.mem_of_find?_eq_some he) hmem
      simpa using List.find?_some he
    rw [get?, he, hsame]
    rfl

theorem any_of_any_erase {p : α → Bool} (h : (n.erase name).any p = true) : n.any p = true := by
  obtain ⟨e, he, hp⟩ := List.any_eq_true.1 h
  exact List.any_eq_true.2 ⟨e, List.mem_of_mem_filter he, hp⟩

theorem any_put {p : α → Bool} (h : (n.put name a).any p = true) :
    n.any p = true ∨ p a = true := by
  rw [put, any, List.any_append, Bool.or_eq_true] at h
  rcases h with hold | hnew
  · exact Or.inl (any_of_any_erase hold)
  · exact Or.inr (by simpa using hnew)

end Named

/-! ## Recorders -/

/-- A remote has a recorder with this label under this number. -/
def Remote.Records (r : Remote) (label : Text) (id : ObserverId) : Prop :=
  ∃ failsOn, (id, Observer.recorder label failsOn) ∈ r.observers

namespace Remote

variable {r : Remote} {label other : Text} {id number : ObserverId}

theorem records_gain_device {k : DeviceKey} :
    (r.gain (.device k)).Records label id ↔ r.Records label id := by
  simp [Records, mem_observers_gain]

theorem records_gain_recorder {failsOn : Option Connection} :
    (r.gain (.recorder other failsOn)).Records label id ↔
      r.Records label id ∨ label = other ∧ id = r.nextObserver := by
  simp only [Records, mem_observers_gain, Prod.mk.injEq, Observer.recorder.injEq, exists_or]
  apply or_congr_right
  constructor
  · rintro ⟨failsOn, hid, hlabel, -⟩
    exact ⟨hlabel, hid⟩
  · rintro ⟨hlabel, hid⟩
    exact ⟨_, hid, hlabel, rfl⟩

theorem records_lose : (r.lose number).Records label id ↔ r.Records label id ∧ id ≠ number := by
  simp [Records, mem_observers_lose]

/-- A number stands for one recorder. -/
theorem Sound.label_eq (h : r.Sound) (hlabel : r.Records label id) (hother : r.Records other id) :
    label = other := by
  obtain ⟨failsOn, hmem⟩ := hlabel
  obtain ⟨failsOn', hmem'⟩ := hother
  have heq := h.eq_of_mem hmem hmem' rfl
  exact (Observer.recorder.inj (Prod.mk.inj heq).2).1

/-- It makes no difference whether an older observer leaves before or after another one comes. -/
theorem lose_gain (r : Remote) (observer : Observer) (h : id < r.nextObserver) :
    (r.gain observer).lose id = (r.lose id).gain observer := by
  have hkept : r.nextObserver ≠ id := Nat.ne_of_gt h
  simp [gain, lose, List.filter_append, hkept]

/-- The remote without the observer of a subscription, if that is one to it. -/
def release (r : Remote) (key : RemoteKey) (s : Subscription) : Remote :=
  if s.remote = key then r.lose s.observer else r

end Remote

/-! ## Subscriptions -/

/-- The recorders of a remote are those of the subscriptions to it that are held. -/
def Remote.Registered (r : Remote) (key : RemoteKey) (subscriptions : Named Subscription) : Prop :=
  ∀ name id, r.Records name id ↔ subscriptions.get? name = some ⟨key, id⟩

namespace Remote.Registered

variable {r : Remote} {key : RemoteKey} {subscriptions : Named Subscription} {name : Text}
  {s : Subscription}

/-- A subscription that is dropped takes its recorder away. -/
theorem release (h : r.Registered key subscriptions) (hr : r.Sound)
    (hs : subscriptions.get? name = some s) :
    (r.release key s).Registered key (subscriptions.erase name) := by
  intro other id
  rw [Named.get?_erase, Remote.release]
  by_cases hkey : s.remote = key
  · have hname : r.Records name s.observer := (h name s.observer).2 (by rw [hs, ← hkey])
    rw [if_pos hkey, records_lose, h other id]
    by_cases hother : name = other
    · subst hother
      rw [if_pos rfl, hs, ← hkey]
      simp only [reduceCtorEq, iff_false, not_and, not_not]
      intro heq
      rw [Option.some.inj heq]
    · rw [if_neg hother, and_iff_left_iff_imp]
      intro hid hnumber
      subst hnumber
      exact hother (hr.label_eq hname ((h other _).2 hid))
  · rw [if_neg hkey, h other id]
    by_cases hother : name = other
    · subst hother
      rw [if_pos rfl, hs]
      simp only [reduceCtorEq, iff_false]
      intro heq
      exact hkey (by rw [Option.some.inj heq])
    · rw [if_neg hother]

theorem erase_of_none (h : r.Registered key subscriptions)
    (hs : subscriptions.get? name = none) : r.Registered key (subscriptions.erase name) := by
  intro other id
  rw [Named.get?_erase, h other id]
  by_cases hother : name = other
  · subst hother
    rw [if_pos rfl, hs]
  · rw [if_neg hother]

theorem release? (h : r.Registered key subscriptions) (hr : r.Sound) (name : Text) :
    ((subscriptions.get? name).elim r (r.release key)).Registered key
      (subscriptions.erase name) := by
  cases hs : subscriptions.get? name with
  | none => exact h.erase_of_none hs
  | some s => exact h.release hr hs

/-- A new subscription to the remote brings a recorder. -/
theorem put (h : r.Registered key (subscriptions.erase name)) (failsOn : Option Connection) :
    (r.gain (.recorder name failsOn)).Registered key
      (subscriptions.put name ⟨key, r.nextObserver⟩) := by
  intro other id
  rw [records_gain_recorder, h other id, Named.get?_erase, Named.get?_put]
  by_cases hother : name = other
  · subst hother
    simp [eq_comm]
  · simp [hother, Ne.symm hother]

/-- A new subscription to another remote brings none. -/
theorem put_of_ne (h : r.Registered key (subscriptions.erase name)) {s : Subscription}
    (hs : s.remote ≠ key) : r.Registered key (subscriptions.put name s) := by
  intro other id
  rw [h other id, Named.get?_erase, Named.get?_put]
  by_cases hother : name = other
  · subst hother
    simp only [if_true, reduceCtorEq, false_iff]
    intro heq
    exact hs (by rw [Option.some.inj heq])
  · rw [if_neg hother, if_neg hother]

theorem of_records {r' : Remote} (h : r.Registered key subscriptions)
    (hsame : ∀ label id, r'.Records label id ↔ r.Records label id) :
    r'.Registered key subscriptions := by
  intro name id
  rw [hsame name id, h name id]

end Remote.Registered

namespace Site

variable {s : Site} {key : RemoteKey} {k : DeviceKey} {r r' : Remote}

/-- A device that is dropped takes no recorder with it. -/
theorem Sound.records_dropDevice (h : s.Sound) (hr : s.remote? key = some r)
    (hr' : (s.dropDevice k).1.remote? key = some r') (label : Text) (id : ObserverId) :
    r'.Records label id ↔ r.Records label id := by
  cases hd : s.device? k with
  | none =>
    obtain rfl : r = r' := by simpa [Site.dropDevice, hd, hr] using hr'
    rfl
  | some d =>
    rw [remote?_dropDevice hd, hr] at hr'
    cases hsub : d.subscription with
    | none =>
      obtain rfl : r = r' := by simpa [hsub] using hr'
      rfl
    | some number =>
      by_cases hremote : d.remote = key
      · obtain rfl : r.lose number = r' := by simpa [hsub, hremote] using hr'
        rw [Remote.records_lose, and_iff_left_iff_imp]
        rintro ⟨failsOn, hmem⟩ rfl
        -- The number is that of the device.
        obtain ⟨r₀, hr₀, hatt⟩ := h.attached hd
        obtain rfl : r = r₀ := by simpa [hremote, hr] using hr₀
        cases hatt with
        | idle hnone => simp [hsub] at hnone
        | following id₀ _ hsome _ hmem₀ =>
          obtain rfl : id = id₀ := by simpa [hsub] using hsome
          have heq := (h.remote hr).eq_of_mem hmem hmem₀ rfl
          cases (Prod.mk.inj heq).2
      · obtain rfl : r = r' := by simpa [hsub, hremote] using hr'
        rfl

/-- A device that is started comes as no recorder. -/
theorem Sound.records_start (h : s.Sound) (hr : s.remote? key = some r)
    (hr' : (s.start k).site.remote? key = some r') (label : Text) (id : ObserverId) :
    r'.Records label id ↔ r.Records label id := by
  rcases h.start_cases k with ⟨hsite, -⟩ | ⟨d, r₀, -, hr₀, -, -, -, hstarted⟩
  · rw [hsite, hr] at hr'
    rw [Option.some.inj hr']
  · rw [hstarted.remote?] at hr'
    split at hr'
    · next hkey =>
      obtain rfl : r = r₀ := by simpa [hkey, hr] using hr₀
      rw [← Option.some.inj hr']
      exact Remote.records_gain_device
    · rw [Option.some.inj (hr.symm.trans hr')]

theorem observers_setState {other : RemoteKey} {state : Connection} {upset : List ObserverId}
    (hr : s.remote? key = some r)
    (hr' : (s.setState other state upset).site.remote? key = some r') :
    r'.observers = r.observers := by
  rcases setState_cases s other state upset with ⟨hsite, -⟩ | ⟨r₀, hr₀, -, -, hchanged⟩
  · rw [hsite, hr] at hr'
    rw [Option.some.inj hr']
  · rw [hchanged.remote?] at hr'
    split at hr'
    · next hkey =>
      obtain rfl : r = r₀ := by simpa [hkey, hr] using hr₀
      rw [← Option.some.inj hr']
    · rw [Option.some.inj (hr.symm.trans hr')]

/-- A recorder that is refused leaves the others alone. -/
theorem observers_subscribe_of_error {other : RemoteKey} {label : Text}
    {failsOn : Option Connection} {panic : Panic} (hr : s.remote? key = some r)
    (hresult : (s.subscribe other (.recorder label failsOn)).result = .error panic)
    (hr' : (s.subscribe other (.recorder label failsOn)).site.remote? key = some r') :
    r'.observers = r.observers := by
  rcases subscribe_recorder_eq_error hresult with ⟨hsite, -⟩ | ⟨-, -, -, -, -, hsite, -⟩
  · rw [hsite, hr] at hr'
    rw [Option.some.inj hr']
  · rw [hsite, remote?_modifyRemote, hr] at hr'
    split at hr'
    · rw [← Option.some.inj hr']
    · rw [← Option.some.inj hr']

end Site

namespace Bench

variable {b b' : Bench} {a : Action} {o : Outcome} {key : RemoteKey} {r r' : Remote}

/-! ## Remotes that exist -/

theorem isHeld_congr (hhandles : b'.handles = b.handles)
    (hdevices : b'.site.devices = b.site.devices) : b'.isHeld key = b.isHeld key := by
  rw [isHeld, isHeld, hhandles, hdevices]

theorem isHeld_iff : b.isHeld key = true ↔
    b.handles.any (· = key) = true ∨ ∃ k d, b.site.device? k = some d ∧ d.remote = key := by
  rw [isHeld, Bool.or_eq_true]
  apply or_congr_right
  constructor
  · intro hany
    obtain ⟨x, hx, hp⟩ := List.any_eq_true.1 hany
    obtain ⟨d, rfl, hremote⟩ := (Option.any_eq_true _ _).1 hp
    obtain ⟨k, hk, hget⟩ := List.mem_iff_getElem.1 hx
    refine ⟨k, d, ?_, by simpa using hremote⟩
    rw [Site.device?, List.getElem?_eq_getElem hk, hget]
    rfl
  · rintro ⟨k, d, hd, hremote⟩
    have hmem : some d ∈ b.site.devices := List.mem_of_getElem? (Option.join_eq_some_iff.1 hd)
    exact List.any_eq_true.2 ⟨some d, hmem, by simp [hremote]⟩

/-- A remote that is held by a handle after a transition was held before. -/
theorem Transition.isHeld_of_handles (ht : Transition b a b' o)
    (hr : b.site.remote? key = some r) (hany : b'.handles.any (· = key) = true) :
    b.isHeld key = true := by
  have hold : b.handles.any (· = key) = true → b.isHeld key = true :=
    fun hany => isHeld_iff.2 (Or.inl hany)
  cases ht with
  | idle | dropDevice | start | setState | refused => exact hold hany
  | channels a answer remotes devices handles => exact hold (handles ▸ hany)
  | cloneRemote handle source hkey =>
    rcases Named.any_put hany with hany | hsame
    · exact hold hany
    · apply isHeld_of_remoteKey?
      rw [hkey, of_decide_eq_true hsame]
  | dropRemote handle => exact hold (Named.any_of_any_erase hany)
  | newRemote handle name =>
    rcases Named.any_put hany with hany | hsame
    · exact hold hany
    · exact absurd (Site.lt_length_of_remote? hr) (by simp [← of_decide_eq_true hsame])
  | newDevice =>
    rw [handles_dropDevice?] at hany
    exact hold hany
  | subscribed _ _ _ _ _ hb₁ =>
    rw [handles_dropSubscription?, hb₁] at hany
    exact hold hany
  | @unsubscribe subscription s =>
    have hhandles := handles_dropSubscription? b (some s)
    exact hold (hhandles ▸ hany)

/-- A remote that does not exist any more never exists again. -/
theorem Transition.isHeld (ht : Transition b a b' o) (h : b.Sound)
    (hr : b.site.remote? key = some r) (hheld : b'.isHeld key = true) : b.isHeld key = true := by
  rcases isHeld_iff.1 hheld with hany | ⟨k, d', hd', hremote⟩
  · exact ht.isHeld_of_handles hr hany
  · rcases ht.device h hd' with hmade | ⟨d, r, hd, -, hstep⟩
    · obtain ⟨holder, hkey⟩ := hmade.held
      exact isHeld_of_remoteKey? (hremote ▸ hkey)
    · exact isHeld_iff.2 (Or.inr ⟨k, d, hd, hstep.remote.symm.trans hremote⟩)

/-! ## What every action keeps -/

/-- Names of subscriptions occur once, and the recorders of every remote that exists are those of
the subscriptions to it. -/
structure Enrolled (b : Bench) : Prop where
  distinct : b.subscriptions.Distinct
  registered : ∀ {key r}, b.isHeld key = true → b.site.remote? key = some r →
    r.Registered key b.subscriptions

theorem enrolled_empty : ({} : Bench).Enrolled where
  distinct := List.nodup_nil
  registered _ hr := by simp [Site.remote?] at hr

theorem Transition.distinct (ht : Transition b a b' o) (h : b.subscriptions.Distinct) :
    b'.subscriptions.Distinct := by
  cases ht with
  | idle | cloneRemote | dropRemote | newRemote | dropDevice | start | setState | refused =>
    exact h
  | channels a answer remotes devices handles names subscriptions => exact subscriptions ▸ h
  | newDevice =>
    rw [subscriptions_dropDevice?]
    exact h
  | subscribed _ _ _ _ _ hb₁ =>
    rw [subscriptions_dropSubscription?, hb₁]
    exact h.put _ _
  | @unsubscribe subscription s =>
    have hsubscriptions := subscriptions_dropSubscription? b (some s)
    exact Named.Distinct.erase (hsubscriptions ▸ h) subscription

/-- What a remote that exists becomes when a subscription is dropped. -/
theorem remote?_dropSubscription_of_held (hheld : b.isHeld key = true)
    (hr : b.site.remote? key = some r) (s : Subscription) :
    (b.dropSubscription s).1.site.remote? key = some (r.release key s) := by
  by_cases hkey : s.remote = key
  · simp [dropSubscription, Remote.release, hkey, hheld, Site.remote?_unsubscribe, hr]
  · by_cases hother : b.isHeld s.remote = true
    · simp [dropSubscription, Remote.release, hkey, hother, Site.remote?_unsubscribe, hr]
    · simp [dropSubscription, Remote.release, hkey, hother, hr]

theorem remote?_dropSubscription?_of_held (hheld : b.isHeld key = true)
    (hr : b.site.remote? key = some r) (old : Option Subscription) :
    (b.dropSubscription? old).1.site.remote? key = some (old.elim r (r.release key)) := by
  cases old with
  | none => exact hr
  | some s => exact remote?_dropSubscription_of_held hheld hr s

/-- A subscription takes the place of another one: as long as the remote exists, it does not matter
that the new recorder comes before the old one leaves. -/
theorem Enrolled.registered_subscribed (he : b.Enrolled) (h : b.Sound)
    (hheld : b.isHeld key = true) (hr : b.site.remote? key = some r) {key₀ : RemoteKey}
    {r₀ : Remote} (hr₀ : b.site.remote? key₀ = some r₀) {name : Text}
    {failsOn : Option Connection} {b₁ : Bench}
    (hsite : b₁.site = b.site.modifyRemote key₀ (·.gain (.recorder name failsOn)))
    (hhandles : b₁.handles = b.handles)
    (hr' : (b₁.dropSubscription? (b.subscriptions.get? name)).1.site.remote? key = some r') :
    r'.Registered key (b.subscriptions.put name ⟨key₀, r₀.nextObserver⟩) := by
  have hreleased := (he.registered hheld hr).release? (h.site.remote hr) name
  have hheld₁ : b₁.isHeld key = true := by
    rw [isHeld_congr hhandles (by rw [hsite]; rfl)]
    exact hheld
  by_cases hkey : key₀ = key
  · subst hkey
    obtain rfl : r = r₀ := Option.some.inj (hr.symm.trans hr₀)
    have hr₁ : b₁.site.remote? key₀ = some (r.gain (.recorder name failsOn)) := by
      simp [hsite, hr]
    rw [remote?_dropSubscription?_of_held hheld₁ hr₁] at hr'
    obtain rfl := Option.some.inj hr'
    cases hs : b.subscriptions.get? name with
    | none =>
      rw [hs] at hreleased
      exact hreleased.put failsOn
    | some s =>
      rw [hs] at hreleased
      have hput := hreleased.put failsOn
      by_cases hremote : s.remote = key₀
      · obtain ⟨r₁, hr₁, hlt, -⟩ := h.subscription hs
        obtain rfl : r = r₁ := by simpa [hremote, hr] using hr₁
        have hcomm : (r.gain (.recorder name failsOn)).release key₀ s =
            (r.release key₀ s).gain (.recorder name failsOn) := by
          simp only [Remote.release, hremote, if_true, Remote.lose_gain r _ hlt]
        have hnumber : (r.release key₀ s).nextObserver = r.nextObserver := by
          simp only [Remote.release, hremote, if_true, Remote.lose]
        simp only [Option.elim_some] at hput ⊢
        rwa [hcomm, ← hnumber]
      · simp only [Option.elim_some, Remote.release, hremote, if_false] at hput ⊢
        exact hput
  · have hr₁ : b₁.site.remote? key = some r := by simp [hsite, hkey, hr]
    rw [remote?_dropSubscription?_of_held hheld₁ hr₁] at hr'
    obtain rfl := Option.some.inj hr'
    exact hreleased.put_of_ne hkey

theorem Transition.registered (ht : Transition b a b' o) (h : b.Sound) (he : b.Enrolled)
    (hheld : b.isHeld key = true) (hr : b.site.remote? key = some r)
    (hr' : b'.site.remote? key = some r') : r'.Registered key b'.subscriptions := by
  have hreg := he.registered hheld hr
  have hsame : ∀ {r₁ : Remote}, r₁.observers = r.observers →
      r₁.Registered key b.subscriptions := by
    intro r₁ hobservers
    apply hreg.of_records
    intro label id
    rw [Remote.Records, Remote.Records, hobservers]
  cases ht with
  | idle | cloneRemote | dropRemote =>
    obtain rfl : r = r' := Option.some.inj (hr.symm.trans hr')
    exact hreg
  | channels a answer remotes devices handles names subscriptions =>
    rw [Site.remote?, remotes] at hr'
    obtain rfl : r = r' := Option.some.inj (hr.symm.trans hr')
    rwa [subscriptions]
  | newRemote handle name =>
    have hne : key ≠ b.site.remotes.length := Nat.ne_of_lt (Site.lt_length_of_remote? hr)
    rw [Site.remote?_addRemote, if_neg hne] at hr'
    obtain rfl : r = r' := Option.some.inj (hr.symm.trans hr')
    exact hreg
  | @newDevice device holder channels key₀ keys hkey =>
    have hadded : (b.addDevice device key₀ keys).site.remote? key = some r := by
      rw [remote?_addDevice, hr]
    rw [subscriptions_dropDevice?]
    cases hold : b.devices.get? device with
    | none =>
      rw [hold] at hr'
      obtain rfl : r = r' := Option.some.inj (hadded.symm.trans hr')
      exact hreg
    | some old =>
      rw [hold] at hr'
      apply hreg.of_records
      exact (h.site_addDevice hkey device keys).records_dropDevice hadded hr'
  | dropDevice =>
    apply hreg.of_records
    exact h.site.records_dropDevice hr hr'
  | start =>
    apply hreg.of_records
    exact h.site.records_start hr hr'
  | setState => exact hsame (Site.observers_setState hr hr')
  | refused name holder failsOn hkey result =>
    exact hsame (Site.observers_subscribe_of_error hr result hr')
  | subscribed name holder failsOn hkey result hb₁ =>
    obtain ⟨r₀, hr₀, -, rfl, hsite, -⟩ := Site.subscribe_recorder_eq_ok result
    rw [subscriptions_dropSubscription?, hb₁]
    exact he.registered_subscribed h hheld hr hr₀ (by rw [hb₁, hsite]) (by rw [hb₁]) hr'
  | @unsubscribe name s hs =>
    have hsubscriptions := subscriptions_dropSubscription? b (some s)
    have hr'' := (remote?_dropSubscription_of_held hheld hr s).symm.trans hr'
    obtain rfl := Option.some.inj hr''
    change (r.release key s).Registered key
      ((b.dropSubscription? (some s)).1.subscriptions.erase name)
    rw [hsubscriptions]
    exact hreg.release (h.site.remote hr) hs

theorem Transition.enrolled (ht : Transition b a b' o) (h : b.Sound) (he : b.Enrolled) :
    b'.Enrolled where
  distinct := ht.distinct he.distinct
  registered := by
    intro key r' hheld hr'
    cases hr : b.site.remote? key with
    | some r => exact ht.registered h he (ht.isHeld h hr hheld) hr hr'
    | none =>
      -- A new remote has no recorders, and there are no subscriptions to it.
      obtain ⟨remoteName, rfl⟩ := ht.remote_new hr hr'
      intro name id
      constructor
      · rintro ⟨failsOn, hmem⟩
        simp at hmem
      · intro hname
        obtain ⟨r₁, hr₁, hlt, -⟩ := (ht.sound h).subscription hname
        obtain rfl := Option.some.inj (hr'.symm.trans hr₁)
        exact absurd hlt (Nat.not_lt_zero id)

theorem enrolled_run (actions : List Action) : (Bench.run {} actions).1.Enrolled := by
  refine run_induction (p := fun b _ => b.Enrolled) enrolled_empty ?_ actions
  intro b outcomes a h he
  exact (transition_step b a).enrolled h he

end Bench

end DeviceTwin
