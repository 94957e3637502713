import DeviceTwin.Proofs.Bench.Enrollment
import Mathlib.Data.List.Perm.Lattice

/-!
# The registry of observers

As long as a remote exists, its observers are exactly what is held of it: the subscriptions to it,
and the devices of it that have been started, each with its own number (`Registry`).  The main
statement, `registry_is_exact`, says so after any run, and also that a number is never given away
twice, and that whatever is given up takes its own observer away and no other.
-/

namespace DeviceTwin

/-- Who stands behind an observer. -/
inductive Owner where
  /-- The subscription with a name. -/
  | subscription (name : Text)
  | device (key : DeviceKey)
  deriving DecidableEq, Repr

/-- Who stands behind an observer. -/
def Observer.owner : Observer → Owner
  | recorder label _ => .subscription label
  | device key => .device key

/-- Whether an action may add an observer. -/
def Action.subscribes : Action → Bool
  | .subscribe .. | .start _ => true
  | _ => false

namespace Remote

variable {r : Remote} {id : ObserverId}

/-- An observer that leaves is cut out, and the others stay in their order. -/
theorem Sound.exists_lose_eq (h : r.Sound) {observer : Observer}
    (hmem : (id, observer) ∈ r.observers) : ∃ before after,
      r.observers = before ++ (id, observer) :: after ∧
        r.lose id = { r with observers := before ++ after } := by
  obtain ⟨before, after, hsplit⟩ := List.append_of_mem hmem
  have hordered := h.ordered
  rw [hsplit, List.pairwise_append, List.pairwise_cons] at hordered
  obtain ⟨-, ⟨hafter, -⟩, hbefore⟩ := hordered
  have hkept : before.filter (·.1 != id) = before := by
    apply List.filter_eq_self.2
    intro e he
    have hlt := hbefore e he (id, observer) List.mem_cons_self
    simpa using Nat.ne_of_lt hlt
  have hkept' : after.filter (·.1 != id) = after := by
    apply List.filter_eq_self.2
    intro e he
    simpa using Nat.ne_of_gt (hafter e he)
  refine ⟨before, after, hsplit, ?_⟩
  simp [Remote.lose, hsplit, List.filter_append, hkept, hkept']

end Remote

/-! ## Leaving a remote -/

namespace Site

variable {s : Site} {key : RemoteKey} {k : DeviceKey} {r : Remote}

/-- One observer has been cut out of the list of its remote, and all other remotes are as they
were. -/
structure Removes (s : Site) (key : RemoteKey) (id : ObserverId) (s' : Site) : Prop where
  entry : ∃ r before observer after, s.remote? key = some r ∧
    r.observers = before ++ (id, observer) :: after ∧
      s'.remote? key = some { r with observers := before ++ after }
  others : ∀ other, key ≠ other → s'.remote? other = s.remote? other

theorem Removes.congr {s₀ s' : Site} {id : ObserverId} (h : s.Removes key id s')
    (hsame : ∀ other, s.remote? other = s₀.remote? other) : s₀.Removes key id s' := by
  constructor
  · rw [← hsame]
    exact h.entry
  · intro other hother
    rw [← hsame]
    exact h.others other hother

theorem removes_of_lose {s' : Site} {id : ObserverId} {observer : Observer} (h : r.Sound)
    (hr : s.remote? key = some r) (hmem : (id, observer) ∈ r.observers)
    (hr' : ∀ other, s'.remote? other =
      if key = other then (s.remote? other).map (·.lose id) else s.remote? other) :
    s.Removes key id s' := by
  obtain ⟨before, after, hsplit, hlose⟩ := h.exists_lose_eq hmem
  constructor
  · refine ⟨r, before, observer, after, hr, hsplit, ?_⟩
    rw [hr', if_pos rfl, hr, Option.map_some, hlose]
  · intro other hother
    rw [hr', if_neg hother]

theorem Sound.removes_dropDevice {d : Device} (h : s.Sound) (hd : s.device? k = some d)
    (hstarted : d.started = true) :
    ∃ id, d.subscription = some id ∧ s.Removes d.remote id (s.dropDevice k).1 := by
  obtain ⟨r, hr, hatt⟩ := h.attached hd
  cases hatt with
  | idle _ hnot => simp [hstarted] at hnot
  | following id _ hsub _ hmem =>
    refine ⟨id, hsub, removes_of_lose (h.remote hr) hr hmem ?_⟩
    intro other
    rw [remote?_dropDevice hd, hsub]

end Site

namespace Bench

variable {b : Bench} {a : Action} {key : RemoteKey} {r r' : Remote}

/-! ## Who stands behind the observers of a remote -/

/-- The subscriptions to a remote that are held, each with its number. -/
def subscribers (b : Bench) (key : RemoteKey) : List (Option ObserverId × Owner) :=
  (b.subscriptions.entries.filter (·.2.remote = key)).map fun e =>
    (some e.2.observer, .subscription e.1)

/-- The devices of a remote that have been started, each with the number of its subscription. -/
def followers (b : Bench) (key : RemoteKey) : List (Option ObserverId × Owner) :=
  (List.range b.site.devices.length).filterMap fun k =>
    ((b.site.device? k).filter fun d => d.remote = key && d.started).map fun d =>
      (d.subscription, .device k)

/-- The observers of a remote are exactly what is held of it. -/
structure Registry (b : Bench) (key : RemoteKey) (r : Remote) : Prop where
  ordered : r.observers.Pairwise (·.1 < ·.1)
  numbered : ∀ e ∈ r.observers, e.1 < r.nextObserver
  entries : (r.observers.map fun e => (some e.1, e.2.owner)).Perm
    (b.subscribers key ++ b.followers key)
  /-- Whoever asks how many there are gets that number, unless the remote is poisoned. -/
  count : ∀ {holder}, b.remoteKey? holder = some key →
    b.step (.askRemote holder .observerCount) = (b, {
      answer :=
        if r.poisoned then .panicked .poisonedRemote
        else .count ((b.subscribers key).length + (b.followers key).length) })

theorem mem_subscribers (h : b.subscriptions.Distinct) {x : Option ObserverId × Owner} :
    x ∈ b.subscribers key ↔ ∃ name id, b.subscriptions.get? name = some ⟨key, id⟩ ∧
      x = (some id, .subscription name) := by
  rw [subscribers, List.mem_map]
  constructor
  · rintro ⟨⟨name, s⟩, hmem, rfl⟩
    obtain ⟨hentry, hremote⟩ := List.mem_filter.1 hmem
    obtain rfl : s.remote = key := by simpa using hremote
    exact ⟨name, s.observer, h.get?_eq_some_iff.2 hentry, rfl⟩
  · rintro ⟨name, id, hname, rfl⟩
    refine ⟨(name, ⟨key, id⟩), ?_, rfl⟩
    exact List.mem_filter.2 ⟨h.get?_eq_some_iff.1 hname, by simp⟩

theorem mem_followers {x : Option ObserverId × Owner} :
    x ∈ b.followers key ↔ ∃ k d, b.site.device? k = some d ∧ d.remote = key ∧
      d.started = true ∧ x = (d.subscription, .device k) := by
  rw [followers, List.mem_filterMap]
  constructor
  · rintro ⟨k, -, hk⟩
    obtain ⟨d, hd, rfl⟩ := Option.map_eq_some_iff.1 hk
    obtain ⟨hd, hboth⟩ := Option.filter_eq_some_iff.1 hd
    obtain ⟨hremote, hstarted⟩ : d.remote = key ∧ d.started = true := by simpa using hboth
    exact ⟨k, d, hd, hremote, hstarted, rfl⟩
  · rintro ⟨k, d, hd, hremote, hstarted, rfl⟩
    refine ⟨k, List.mem_range.2 (Site.lt_length_of_device? hd), ?_⟩
    simp [hd, hremote, hstarted]

theorem nodup_subscribers (h : b.subscriptions.Distinct) : (b.subscribers key).Nodup := by
  have hnames : ((b.subscribers key).map Prod.snd) =
      ((b.subscriptions.entries.filter (·.2.remote = key)).map Prod.fst).map
        Owner.subscription := by
    simp [subscribers]
  apply List.Nodup.of_map Prod.snd
  rw [hnames]
  apply List.Nodup.map
  · intro name other hsame
    exact Owner.subscription.inj hsame
  · exact List.Nodup.sublist (List.filter_sublist.map _) h

theorem nodup_followers : (b.followers key).Nodup := by
  apply List.Nodup.filterMap _ List.nodup_range
  intro k other x hk hother
  obtain ⟨d, -, rfl⟩ := Option.map_eq_some_iff.1 hk
  obtain ⟨d', -, hsame⟩ := Option.map_eq_some_iff.1 hother
  exact (Owner.device.inj (Prod.mk.inj hsame).2).symm

theorem Sound.mem_observers_iff (h : b.Sound) (hr : b.site.remote? key = some r)
    {id : ObserverId} {k : DeviceKey} : (id, .device k) ∈ r.observers ↔
      ∃ d, b.site.device? k = some d ∧ d.remote = key ∧ d.started = true ∧
        d.subscription = some id := by
  constructor
  · intro hmem
    obtain ⟨d, hd, hremote, hsub⟩ := h.site.observed hr hmem
    obtain ⟨r₀, -, hatt⟩ := h.site.attached hd
    cases hatt with
    | idle hnone => simp [hsub] at hnone
    | following _ _ _ hstarted => exact ⟨d, hd, hremote, hstarted, hsub⟩
  · rintro ⟨d, hd, rfl, hstarted, hsub⟩
    obtain ⟨r₀, hr₀, hatt⟩ := h.site.attached hd
    obtain rfl : r = r₀ := Option.some.inj (hr.symm.trans hr₀)
    cases hatt with
    | idle _ hnot => simp [hstarted] at hnot
    | following number _ hsome _ hmem =>
      obtain rfl : number = id := Option.some.inj (hsome.symm.trans hsub)
      exact hmem

theorem Enrolled.entries (he : b.Enrolled) (h : b.Sound) (hheld : b.isHeld key = true)
    (hr : b.site.remote? key = some r) :
    (r.observers.map fun e => (some e.1, e.2.owner)).Perm
      (b.subscribers key ++ b.followers key) := by
  have hnodup : (r.observers.map fun e => (some e.1, e.2.owner)).Nodup := by
    apply List.Nodup.of_map Prod.fst
    rw [List.map_map]
    apply List.Pairwise.map _ _ (h.site.remote hr).ordered
    intro e x hlt heq
    exact Nat.ne_of_lt hlt (Option.some.inj heq)
  have hdisjoint : ∀ x ∈ b.subscribers key, ∀ y ∈ b.followers key, x ≠ y := by
    rintro x hx y hy rfl
    obtain ⟨name, id, -, rfl⟩ := (mem_subscribers he.distinct).1 hx
    obtain ⟨k, d, -, -, -, hsame⟩ := mem_followers.1 hy
    cases (Prod.mk.inj hsame).2
  apply (List.perm_ext_iff_of_nodup hnodup (List.nodup_append.2
    ⟨nodup_subscribers he.distinct, nodup_followers, hdisjoint⟩)).2
  intro x
  rw [List.mem_append, mem_subscribers he.distinct, mem_followers, List.mem_map]
  constructor
  · rintro ⟨⟨id, observer⟩, hmem, rfl⟩
    cases observer with
    | recorder name failsOn =>
      left
      exact ⟨name, id, (he.registered hheld hr name id).1 ⟨failsOn, hmem⟩, rfl⟩
    | device k =>
      right
      obtain ⟨d, hd, hremote, hstarted, hsub⟩ := (h.mem_observers_iff hr).1 hmem
      exact ⟨k, d, hd, hremote, hstarted, by rw [hsub]; rfl⟩
  · rintro (⟨name, id, hname, rfl⟩ | ⟨k, d, hd, hremote, hstarted, rfl⟩)
    · obtain ⟨failsOn, hmem⟩ := (he.registered hheld hr name id).2 hname
      exact ⟨_, hmem, rfl⟩
    · obtain ⟨r₀, hr₀, hatt⟩ := h.site.attached hd
      cases hatt with
      | idle _ hnot => simp [hstarted] at hnot
      | following number _ hsome =>
        exact ⟨(number, .device k),
          (h.mem_observers_iff hr).2 ⟨d, hd, hremote, hstarted, hsome⟩, by rw [hsome]; rfl⟩

theorem Enrolled.registry (he : b.Enrolled) (h : b.Sound) (hheld : b.isHeld key = true)
    (hr : b.site.remote? key = some r) : Registry b key r where
  ordered := (h.site.remote hr).ordered
  numbered := (h.site.remote hr).numbered
  entries := he.entries h hheld hr
  count := by
    intro holder hkey
    have hlength := (he.entries h hheld hr).length_eq
    rw [List.length_map, List.length_append] at hlength
    rw [step_askRemote hkey]
    by_cases hp : r.poisoned = true
    · rw [Site.inspect_of_poisoned hr hp, if_pos hp]
      rfl
    · rw [Site.inspect_of_not_poisoned hr (by simpa using hp), if_neg hp, ← hlength]
      rfl

/-! ## Numbers -/

/-- An action adds an observer to a remote and gives it a number. -/
inductive Registers (b : Bench) (key : RemoteKey) (id : ObserverId) : Action → Prop where
  | subscribe (name : Text) (holder : Holder) (failsOn : Option Connection)
      (hkey : b.remoteKey? holder = some key)
      (hanswer : (b.step (.subscribe name holder failsOn)).2.answer = .subscribed id) :
      Registers b key id (.subscribe name holder failsOn)
  | start (name : Text) {k : DeviceKey} {d d' : Device} (hk : b.devices.get? name = some k)
      (hd : b.site.device? k = some d) (hremote : d.remote = key)
      (hanswer : (b.step (.start name)).2.answer = .done)
      (hd' : (b.step (.start name)).1.site.device? k = some d')
      (hid : d'.subscription = some id) : Registers b key id (.start name)

/-- No more numbers are given away than there are actions that may do so. -/
theorem Sound.nextObserver_step (h : b.Sound) (a : Action) (hr : b.site.remote? key = some r)
    (hr' : (b.step a).1.site.remote? key = some r') :
    r'.nextObserver ≤ r.nextObserver + if a.subscribes then 1 else 0 := by
  obtain ⟨r₁, hr₁, hstep, -⟩ := (transition_step b a).remote h hr
  obtain rfl : r₁ = r' := Option.some.inj (hr₁.symm.trans hr')
  by_cases ha : a.subscribes = true
  · rw [if_pos ha]
    exact hstep.nextObserver_le_succ
  · rw [if_neg ha]
    apply Nat.le_of_eq
    apply hstep.nextObserver_eq
    intro c hc
    obtain ⟨hmem, hkey⟩ := List.mem_filter.1 hc
    rcases (transition_step b a).calls_cases h with
      hnil | ⟨_, _, _, -, -, hsample, -⟩ | ⟨key', r₀, _, state, upset, hr₀, -, -, -, hcalls⟩
    · simp [hnil] at hmem
    · rcases hsample with ⟨name, holder, failsOn, rfl⟩ | ⟨name, rfl⟩
      · exact absurd rfl ha
      · exact absurd rfl ha
    · rw [hcalls] at hmem
      obtain ⟨e, he, rfl⟩ := List.mem_map.1 hmem
      obtain rfl : key' = key := by simpa using hkey
      obtain rfl : r = r₀ := Option.some.inj (hr.symm.trans hr₀)
      exact Nat.ne_of_lt ((h.site.remote hr).numbered e (mem_of_mem_told he))

theorem Sound.nextObserver_run (h : b.Sound) {n : Nat}
    (hn : ∀ key r, b.site.remote? key = some r → r.nextObserver ≤ n) (actions : List Action) :
    ∀ key r, (b.run actions).1.site.remote? key = some r →
      r.nextObserver ≤ n + actions.countP Action.subscribes := by
  induction actions generalizing b n with
  | nil => exact hn
  | cons a rest ih =>
    have hstep : ∀ key r, (b.step a).1.site.remote? key = some r →
        r.nextObserver ≤ n + if a.subscribes then 1 else 0 := by
      intro key r' hr'
      cases hr : b.site.remote? key with
      | none =>
        obtain ⟨name, rfl⟩ := (transition_step b a).remote_new hr hr'
        exact Nat.zero_le _
      | some r =>
        exact Nat.le_trans (h.nextObserver_step a hr hr') (Nat.add_le_add_right (hn key r hr) _)
    intro key r hr
    have hrest := ih (h.step a) hstep key r hr
    rwa [List.countP_cons, Nat.add_comm (rest.countP _), ← Nat.add_assoc]

theorem Sound.nextObserver_le_run (h : b.Sound) (hr : b.site.remote? key = some r)
    (actions : List Action) : ∃ r', (b.run actions).1.site.remote? key = some r' ∧
      r.nextObserver ≤ r'.nextObserver := by
  induction actions generalizing b r with
  | nil => exact ⟨r, hr, Nat.le_refl _⟩
  | cons a rest ih =>
    obtain ⟨r₁, hr₁, hstep, -⟩ := (transition_step b a).remote h hr
    obtain ⟨r', hr', hle⟩ := ih (h.step a) hr₁
    exact ⟨r', hr', Nat.le_trans hstep.nextObserver_le hle⟩

/-- Whoever is added gets the next number of the remote. -/
theorem Registers.number {id : ObserverId} (hreg : Registers b key id a) (h : b.Sound) :
    ∃ r r', b.site.remote? key = some r ∧ (b.step a).1.site.remote? key = some r' ∧
      id = r.nextObserver ∧ id < r'.nextObserver := by
  cases hreg with
  | subscribe name holder failsOn hkey hanswer =>
    obtain ⟨key', hkey', hbefore, hafter⟩ := h.observes_of_subscribed hanswer
    obtain rfl : key = key' := Option.some.inj (hkey.symm.trans hkey')
    obtain ⟨r, r', hr, hr', -, hid, hlt, -⟩ := h.added_step hbefore hafter
    exact ⟨r, r', hr, hr', hid, hlt⟩
  | @start name k d d' hk hd hremote hanswer hd' hid =>
    subst hremote
    obtain ⟨r, hr, -⟩ := h.site.attached hd
    have hstep : ∃ answer : Except StartError Unit → Answer, (∀ e, answer (.error e) ≠ .done) ∧
        b.step (.start name) = b.conclude (b.site.start k) answer := by
      refine ⟨_, ?_, by rw [step, withDevice, hk]⟩
      intro e
      simp
    obtain ⟨answer, hrefused, hstep⟩ := hstep
    rw [hstep] at hanswer hd' ⊢
    by_cases hp : r.poisoned = true
    · rw [Site.start_of_poisoned hd hr hp] at hanswer
      cases hanswer
    have hp : r.poisoned = false := by simpa using hp
    by_cases hs : d.started = true
    · rw [Site.start_of_started hd hr hp hs] at hanswer
      exact absurd hanswer (hrefused _)
    have hs : d.started = false := by simpa using hs
    have hstarted := Site.started_start hd hr hp hs (h.site.subscription_eq_none hd hs)
    obtain ⟨d₁, hd₁, -⟩ := hstarted.device?
    obtain rfl := Option.some.inj (hd₁.symm.trans hd')
    obtain rfl : r.nextObserver = id := Option.some.inj hid
    exact ⟨r, _, hr, (hstarted.remote? d.remote).trans (if_pos rfl), rfl, Nat.lt_succ_self _⟩

/-- A number that was given away is smaller than any that is given away later. -/
theorem Registers.lt_of_later {id number : ObserverId} {later : Action} (h : b.Sound)
    (hreg : Registers b key id a) {between : List Action}
    (hlater : Registers ((b.step a).1.run between).1 key number later) : id < number := by
  obtain ⟨-, r', -, hr', -, hlt⟩ := hreg.number h
  obtain ⟨r₁, hr₁, hle⟩ := (h.step a).nextObserver_le_run hr' between
  obtain ⟨r₂, -, hr₂, -, rfl, -⟩ := hlater.number ((h.step a).run between)
  obtain rfl := Option.some.inj (hr₁.symm.trans hr₂)
  exact Nat.lt_of_lt_of_le hlt hle

/-! ## What is given up -/

/-- Whatever is given up takes its own observer away. -/
structure Releases (b : Bench) : Prop where
  unsubscribe : ∀ {name key id}, b.subscriptions.get? name = some ⟨key, id⟩ →
    b.isHeld key = true → b.site.Removes key id (b.step (.unsubscribe name)).1.site
  /-- There is nothing to be taken from a remote that does not exist any more. -/
  unsubscribeDead : ∀ {name s}, b.subscriptions.get? name = some s →
    b.isHeld s.remote = false → b.step (.unsubscribe name) =
      ({ b with subscriptions := b.subscriptions.erase name }, { answer := .done })
  /-- A subscription that is replaced goes after the new one has come. -/
  resubscribe : ∀ {name holder failsOn key₀ id₀ key id}, b.remoteKey? holder = some key₀ →
    (b.site.subscribe key₀ (.recorder name failsOn)).result = .ok id₀ →
      b.subscriptions.get? name = some ⟨key, id⟩ → b.isHeld key = true →
        (b.site.subscribe key₀ (.recorder name failsOn)).site.Removes key id
          (b.step (.subscribe name holder failsOn)).1.site
  resubscribeDead : ∀ {name holder failsOn key₀ id₀ s}, b.remoteKey? holder = some key₀ →
    (b.site.subscribe key₀ (.recorder name failsOn)).result = .ok id₀ →
      b.subscriptions.get? name = some s → b.isHeld s.remote = false →
        b.step (.subscribe name holder failsOn) =
          ({ b with
              site := (b.site.subscribe key₀ (.recorder name failsOn)).site
              subscriptions := b.subscriptions.put name ⟨key₀, id₀⟩ },
            { answer := .subscribed id₀
              trace := (b.site.subscribe key₀ (.recorder name failsOn)).trace })
  dropDevice : ∀ {name k d}, b.devices.get? name = some k → b.site.device? k = some d →
    d.started = true → ∃ id, d.subscription = some id ∧
      b.site.Removes d.remote id (b.step (.dropDevice name)).1.site
  newDevice : ∀ {name holder channels k d},
    (b.step (.newDevice name holder channels)).2.answer = .done →
      b.devices.get? name = some k → b.site.device? k = some d → d.started = true →
        ∃ id, d.subscription = some id ∧
          b.site.Removes d.remote id (b.step (.newDevice name holder channels)).1.site

theorem dropSubscription_of_dead {s : Subscription} (hdead : b.isHeld s.remote = false) :
    b.dropSubscription s = (b, []) := by
  rw [dropSubscription, if_neg (by simp [hdead])]

/-- The recorder of a subscription is an observer as long as the remote exists. -/
theorem Enrolled.exists_recorder (he : b.Enrolled) (h : b.Sound) {name : Text}
    {id : ObserverId} (hname : b.subscriptions.get? name = some ⟨key, id⟩)
    (hheld : b.isHeld key = true) : ∃ r failsOn, b.site.remote? key = some r ∧
      (id, Observer.recorder name failsOn) ∈ r.observers := by
  obtain ⟨r, hr, -⟩ := h.subscription hname
  obtain ⟨failsOn, hmem⟩ := (he.registered hheld hr name id).2 hname
  exact ⟨r, failsOn, hr, hmem⟩

theorem Enrolled.removes_resubscribe (he : b.Enrolled) (h : b.Sound) {name : Text}
    {holder : Holder} {failsOn : Option Connection} {key₀ : RemoteKey} {id₀ id : ObserverId}
    (hkey : b.remoteKey? holder = some key₀)
    (hresult : (b.site.subscribe key₀ (.recorder name failsOn)).result = .ok id₀)
    (hname : b.subscriptions.get? name = some ⟨key, id⟩) (hheld : b.isHeld key = true) :
    (b.site.subscribe key₀ (.recorder name failsOn)).site.Removes key id
      (b.step (.subscribe name holder failsOn)).1.site := by
  obtain ⟨r, failsOn', hr, hmem⟩ := he.exists_recorder h hname hheld
  obtain ⟨r₁, hr₁, hkept⟩ := b.site.keeps_subscribe_recorder key₀ name failsOn key r hr
  have hsound := (h.site.subscribe_recorder key₀ name failsOn).remote hr₁
  have hheld₁ : Bench.isHeld { b with
      site := (b.site.subscribe key₀ (.recorder name failsOn)).site
      subscriptions := b.subscriptions.put name ⟨key₀, id₀⟩ } key = true := by
    rw [isHeld_subscribe hresult]
    exact hheld
  rw [step_subscribe_of_ok hkey hresult rfl, hname]
  apply Site.removes_of_lose hsound hr₁ (hkept _ hmem)
  intro other
  rw [dropSubscription?, site_dropSubscription_of_held hheld₁, Site.remote?_unsubscribe]

theorem Enrolled.releases (he : b.Enrolled) (h : b.Sound) : Releases b where
  unsubscribe := by
    intro name key id hname hheld
    obtain ⟨r, failsOn, hr, hmem⟩ := he.exists_recorder h hname hheld
    rw [step_unsubscribe hname]
    apply Site.removes_of_lose (h.site.remote hr) hr hmem
    intro other
    change (b.dropSubscription ⟨key, id⟩).1.site.remote? other = _
    rw [site_dropSubscription_of_held hheld, Site.remote?_unsubscribe]
  unsubscribeDead := by
    intro name s hname hdead
    rw [step_unsubscribe hname, dropSubscription_of_dead hdead]
  resubscribe := he.removes_resubscribe h
  resubscribeDead := by
    intro name holder failsOn key₀ id₀ s hkey hresult hname hdead
    have hdead₁ : Bench.isHeld { b with
        site := (b.site.subscribe key₀ (.recorder name failsOn)).site
        subscriptions := b.subscriptions.put name ⟨key₀, id₀⟩ } s.remote = false := by
      rw [isHeld_subscribe hresult]
      exact hdead
    rw [step_subscribe_of_ok hkey hresult rfl, hname, dropSubscription?,
      dropSubscription_of_dead hdead₁, List.append_nil]
  dropDevice := by
    intro name k d hk hd hstarted
    obtain ⟨id, hsub, hremoves⟩ := h.site.removes_dropDevice hd hstarted
    refine ⟨id, hsub, ?_⟩
    rw [step_dropDevice hk]
    exact hremoves
  newDevice := by
    intro name holder channels k d hanswer hk hd hstarted
    obtain ⟨key₀, keys, hkey, hkeys⟩ := exists_keys_of_newDevice hanswer
    -- The new device stands beside the old one for a moment.
    have hadded := device?_addDevice_of_some hd name key₀ keys
    obtain ⟨id, hsub, hremoves⟩ :=
      (h.site_addDevice hkey name keys).removes_dropDevice hadded hstarted
    refine ⟨id, hsub, ?_⟩
    rw [step_newDevice hkey hkeys, hk]
    exact hremoves.congr (remote?_addDevice b name key₀ keys)

/-! ## The main statement -/

/-- The registry of observers is exact.  After any run, as long as a remote exists, poisoned or
not, its observers stand in the order of their numbers, and they are the subscriptions to it that
are held and the devices of it that have been started, one entry for each.  Numbers are never given
twice; there are no more of them than actions that subscribe.  And whatever is given up takes away
its own observer and no other. -/
theorem registry_is_exact (actions : List Action) :
    (∀ key r, (run {} actions).1.isHeld key = true →
      (run {} actions).1.site.remote? key = some r →
        Registry (run {} actions).1 key r ∧
          r.nextObserver ≤ actions.countP Action.subscribes) ∧
    (∀ key id a, Registers (run {} actions).1 key id a →
      ∀ between later number,
        Registers (run {} (actions ++ a :: between)).1 key number later → id < number) ∧
    Releases (run {} actions).1 := by
  have h : (run {} actions).1.Sound := sound_empty.run actions
  have he := enrolled_run actions
  refine ⟨?_, ?_, he.releases h⟩
  · intro key r hheld hr
    refine ⟨he.registry h hheld hr, ?_⟩
    have hempty : ∀ key r, ({} : Bench).site.remote? key = some r → r.nextObserver ≤ 0 := by
      intro key r hr
      simp [Site.remote?] at hr
    have hcount := sound_empty.nextObserver_run hempty actions key r hr
    rwa [Nat.zero_add] at hcount
  · intro key id a hreg between later number hlater
    rw [run_append_cons] at hlater
    exact hreg.lt_of_later h hlater

/-- The remote is poisoned by the recorder, which is given up then; a device stays behind.  When all
that holds the remote is gone, a subscription to it is dropped without a trace. -/
theorem registry_is_exact_poisoned :
    let actions := attended ++
      [.subscribe ['t'] (.handle ['r']) none, .setState (.handle ['r']) .connected [1],
        .unsubscribe ['s']]
    let gone := actions ++ [.dropDevice ['a'], .dropDevice ['b'], .dropRemote ['r']]
    (∃ r, (run {} actions).1.site.remote? 0 = some r ∧ r.poisoned = true ∧
      Registry (run {} actions).1 0 r ∧ r.nextObserver = 3 ∧
      (run {} actions).1.subscribers 0 = [(some 2, .subscription ['t'])] ∧
      (run {} actions).1.followers 0 = [(some 0, .device 0)]) ∧
    (run {} gone).1.step (.unsubscribe ['t']) =
      ({ (run {} gone).1 with subscriptions := {} }, { answer := .done }) := by
  intro actions gone
  obtain ⟨hregistry, -, -⟩ := registry_is_exact actions
  obtain ⟨-, -, hreleases⟩ := registry_is_exact gone
  constructor
  · have hr : (run {} actions).1.site.remote? 0 = some
        { name := ['p'], state := .connected, poisoned := true, nextObserver := 3
          observers := [(0, .device 0), (2, .recorder ['t'] none)] } := by decide
    obtain ⟨hexact, -⟩ := hregistry 0 _ (by decide) hr
    exact ⟨_, hr, rfl, hexact, rfl, by decide, by decide⟩
  · have hname : (run {} gone).1.subscriptions.get? ['t'] = some ⟨0, 2⟩ := by decide
    rw [hreleases.unsubscribeDead hname (by decide)]
    rfl

end Bench

end DeviceTwin
