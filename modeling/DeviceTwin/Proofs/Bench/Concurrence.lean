import DeviceTwin.Proofs.Bench.Touching

/-!
# What an action depends on

An action that is carried out through handles, devices and subscriptions depends on the part of the
site that it works on, and on what the names stand for that it mentions.  On two benches that look
the same to it (`SameFor`) it does the same, and it changes nothing outside its part on either
(`SameFor.step`).
-/

namespace DeviceTwin

namespace Bench

variable {b b' : Bench} {a : Action} {key : RemoteKey} {l : Label}

/-- Two benches look the same to an action: they agree on the part of the site that it works on, on
what it names, and on which of the remotes that it touches exist. -/
structure SameFor (a : Action) (b b' : Bench) : Prop where
  site : b.site.Agree (b.part a) b'.site
  labels : ∀ {l}, l ∈ a.uses → b.SameAt b' l
  ends : ∀ name, b'.channels.get? name = b.channels.get? name
  held : ∀ {key}, key ∈ b.touches a → b'.isHeld key = b.isHeld key

/-- An action does the same on two benches, and works on its part only. -/
structure Concurs (a : Action) (b b' : Bench) : Prop where
  outcome : (b'.step a).2 = (b.step a).2
  site : Site.Local (b.part a) b.site b'.site (b.step a).1.site (b'.step a).1.site
    (b.step a).2.trace (b'.step a).2.trace
  /-- Labels get the same meaning, unless that is a new device. -/
  labels : ∀ {l}, l ∈ a.binds → b.made a = none → (b.step a).1.SameAt (b'.step a).1 l

namespace SameFor

variable (h : SameFor a b b') (hs : b.Sound)

include h

theorem channelKeys (names : List Text) : b'.channelKeys names = b.channelKeys names := by
  induction names with
  | nil => rfl
  | cons name rest ih => simp only [Bench.channelKeys, h.ends, ih]

theorem device {name : Text} (hname : .device name ∈ a.uses) :
    b'.devices.get? name = b.devices.get? name := h.labels hname

include hs

theorem remoteOf (hl : l ∈ a.uses) : b'.remoteOf l = b.remoteOf l := by
  have hsame := h.labels hl
  cases l with
  | handle name => exact hsame
  | device name =>
    cases hk : b.devices.get? name with
    | none =>
      have hk' := (h.device hl).trans hk
      simp [Bench.remoteOf, remoteKey?, hk, hk']
    | some k =>
      have hk' := (h.device hl).trans hk
      have hdevice := h.site.device? (hs.devices_part hl hk)
      simp [Bench.remoteOf, remoteKey?, hk, hk', hdevice]
  | subscription name => exact congrArg (Option.map _) hsame

theorem remoteKey? (holder : Holder) (hl : holder.label ∈ a.uses) :
    b'.remoteKey? holder = b.remoteKey? holder := by
  rw [← remoteOf_label, ← remoteOf_label, h.remoteOf hs hl]

theorem made : b'.made a = b.made a := by
  cases a with
  | newDevice name holder channels =>
    have hkey := h.remoteKey? hs holder (by simp [Action.uses])
    have hkeys := h.channelKeys channels
    simp only [Bench.made, hkey, hkeys]
    cases b.remoteKey? holder with
    | none => rfl
    | some key =>
      cases hkeys₀ : b.channelKeys channels with
      | error unknown => rfl
      | ok keys =>
        have hchannels := channels_part (a := .newDevice name holder channels) hkeys₀
        obtain ⟨-, hsenders⟩ := h.site.addSenders (hs.closed_part _) hchannels
        simp only [hsenders]
  | _ => rfl

/-! ## An action does the same on both -/

theorem concurs_of_idle (answer : Answer) (hstep : b.step a = (b, { answer }))
    (hstep' : b'.step a = (b', { answer })) : Concurs a b b' where
  outcome := by rw [hstep, hstep']
  site := by
    rw [hstep, hstep']
    exact h.site.nothing (hs.closed_part a)
  labels hl _ := by
    rw [hstep, hstep']
    exact h.labels (uses_of_binds hl)

omit h hs in
theorem concurs_of_conclude {α : Type} {e e' : Effect α} {answer : α → Answer}
    (hlocal : Site.Local (b.part a) b.site b'.site e.site e'.site e.trace e'.trace)
    (hresult : e'.result = e.result) (hstep : b.step a = b.conclude e answer)
    (hstep' : b'.step a = b'.conclude e' answer) (hbinds : a.binds = []) : Concurs a b b' where
  outcome := by
    rw [hstep, hstep']
    simp only [conclude, hresult, hlocal.trace]
  site := by
    rw [hstep, hstep']
    exact hlocal
  labels hl := by simp [hbinds] at hl

/-- With a remote that a holder leads to, or does not lead to, on both benches. -/
theorem concurs_withRemote (holder : Holder) {f : Bench → RemoteKey → Bench × Outcome}
    (hl : holder.label ∈ a.uses) (hstep : ∀ b : Bench, b.step a = b.withRemote holder (f b))
    (hsome : ∀ key, b.remoteKey? holder = some key → b'.remoteKey? holder = some key →
      key ∈ b.touches a → Concurs a b b') : Concurs a b b' := by
  have hsame := h.remoteKey? hs holder hl
  cases hkey : b.remoteKey? holder with
  | none =>
    rw [hkey] at hsame
    apply h.concurs_of_idle hs (.unknown (holderName holder))
    · rw [hstep, withRemote, hkey]
    · rw [hstep, withRemote, hsame]
  | some key => exact hsome key hkey (hsame.trans hkey) (mem_touches hl (by rwa [remoteOf_label]))

theorem concurs_withDevice (name : Text) {f : Bench → DeviceKey → Bench × Outcome}
    (hl : .device name ∈ a.uses) (hstep : ∀ b : Bench, b.step a = b.withDevice name (f b))
    (hsome : ∀ k, (b.part a).devices k → b.step a = f b k → b'.step a = f b' k →
      Concurs a b b') : Concurs a b b' := by
  have hsame := h.device hl
  cases hk : b.devices.get? name with
  | none =>
    rw [hk] at hsame
    apply h.concurs_of_idle hs (.unknown name)
    · rw [hstep, withDevice, hk]
    · rw [hstep, withDevice, hsame]
  | some k =>
    rw [hk] at hsame
    apply hsome k (hs.devices_part hl hk)
    · rw [hstep, withDevice, hk]
    · rw [hstep, withDevice, hsame]

theorem step_cloneRemote {handle : Text} {source : Holder} (ha : a = .cloneRemote handle source) :
    Concurs a b b' := by
  subst ha
  apply h.concurs_withRemote hs source (by simp [Action.uses]) fun _ => rfl
  intro key hkey hkey' _
  have hsite := h.site.nothing (hs.closed_part (.cloneRemote handle source))
  constructor
  · simp only [step, withRemote, hkey, hkey']
  · simpa only [step, withRemote, hkey, hkey'] using hsite
  · intro l hl _
    obtain rfl : l = .handle handle := by simpa [Action.binds] using hl
    simp [SameAt, step, withRemote, hkey, hkey']

theorem step_dropRemote {handle : Text} (ha : a = .dropRemote handle) : Concurs a b b' := by
  subst ha
  refine ⟨rfl, h.site.nothing (hs.closed_part (.dropRemote handle)), ?_⟩
  intro l hl _
  obtain rfl : l = .handle handle := by simpa [Action.binds] using hl
  simp [SameAt, step]

/-- A new device is made alike on both, and what it replaces is dropped alike. -/
theorem local_newDevice {name : Text} {holder : Holder} {channels : List Text}
    (ha : a = .newDevice name holder channels) (key : RemoteKey) {keys : List ChannelKey}
    (hkeys : b.channelKeys channels = .ok keys) :
    Site.Local (b.part a) b.site b'.site
      ((b.addDevice name key keys).dropDevice? (b.devices.get? name)).1.site
      ((b'.addDevice name key keys).dropDevice? (b'.devices.get? name)).1.site
      ((b.addDevice name key keys).dropDevice? (b.devices.get? name)).2
      ((b'.addDevice name key keys).dropDevice? (b'.devices.get? name)).2 := by
  subst ha
  obtain ⟨hsenders, hnumbers⟩ := h.site.addSenders (hs.closed_part _) (channels_part hkeys)
  have hadded : Site.Local (b.part (.newDevice name holder channels)) b.site b'.site
      (b.addDevice name key keys).site (b'.addDevice name key keys).site [] [] := by
    simpa only [addDevice, hnumbers, List.append_nil] using
      hsenders.trans (hsenders.agree.addDevice hsenders.closed key (b.site.addSenders keys).2)
  have huses : Label.device name ∈ (Action.newDevice name holder channels).uses := by
    simp [Action.uses]
  rw [h.device huses]
  cases hold : b.devices.get? name with
  | none => exact hadded
  | some old =>
    exact hadded.trans (hadded.agree.dropDevice hadded.closed (hs.devices_part huses hold))

theorem step_newDevice {name : Text} {holder : Holder} {channels : List Text}
    (ha : a = .newDevice name holder channels) : Concurs a b b' := by
  subst ha
  apply h.concurs_withRemote hs holder (by simp [Action.uses]) fun _ => rfl
  intro key hkey hkey' _
  have hkeys' := h.channelKeys channels
  cases hkeys : b.channelKeys channels with
  | error unknown =>
    rw [hkeys] at hkeys'
    apply h.concurs_of_idle hs (.unknown unknown)
    · simp only [step, withRemote, hkey, hkeys]
    · simp only [step, withRemote, hkey', hkeys']
  | ok keys =>
    have hall := h.local_newDevice hs rfl key hkeys
    have hstep : b.step (.newDevice name holder channels) = _ := Bench.step_newDevice hkey hkeys
    have hstep' : b'.step (.newDevice name holder channels) = _ :=
      Bench.step_newDevice hkey' (hkeys'.trans hkeys)
    constructor
    · rw [hstep, hstep', hall.trace]
    · rw [hstep, hstep']
      exact hall
    · -- The one name that is bound stands for the new device.
      intro l _ hnone
      simp [Bench.made, hkey, hkeys] at hnone

theorem step_dropDevice {name : Text} (ha : a = .dropDevice name) : Concurs a b b' := by
  subst ha
  apply h.concurs_withDevice hs name (by simp [Action.uses]) fun _ => rfl
  intro k hpart hstep hstep'
  have hlocal := h.site.dropDevice (hs.closed_part (.dropDevice name)) hpart
  constructor
  · simp only [hstep, hstep', dropDeviceKey, hlocal.trace]
  · simpa only [hstep, hstep', dropDeviceKey] using hlocal
  · intro l hl _
    obtain rfl : l = .device name := by simpa [Action.binds] using hl
    simp [SameAt, hstep, hstep', dropDeviceKey]

theorem step_start {name : Text} (ha : a = .start name) : Concurs a b b' := by
  subst ha
  apply h.concurs_withDevice hs name (by simp [Action.uses]) fun _ => rfl
  intro k hpart hstep hstep'
  obtain ⟨hlocal, hresult⟩ := h.site.start (hs.closed_part (.start name)) hs.site hpart
  exact concurs_of_conclude hlocal hresult hstep hstep' rfl

theorem step_setState {holder : Holder} {state : Connection} {upset : List ObserverId}
    (ha : a = .setState holder state upset) : Concurs a b b' := by
  subst ha
  apply h.concurs_withRemote hs holder (by simp [Action.uses]) fun _ => rfl
  intro key hkey hkey' htouched
  obtain ⟨hlocal, hresult⟩ := h.site.setState (hs.closed_part _) htouched state upset
  exact concurs_of_conclude hlocal hresult (Bench.step_setState hkey state upset)
    (Bench.step_setState hkey' state upset) rfl

theorem step_askRemote {holder : Holder} {query : RemoteQuery} (ha : a = .askRemote holder query) :
    Concurs a b b' := by
  subst ha
  apply h.concurs_withRemote hs holder (by simp [Action.uses]) fun _ => rfl
  intro key hkey hkey' htouched
  refine concurs_of_conclude ?_ (h.site.inspect htouched (answerRemote query))
    (Bench.step_askRemote hkey query) (Bench.step_askRemote hkey' query) rfl
  rw [Site.site_inspect, Site.site_inspect, Site.trace_inspect, Site.trace_inspect]
  exact h.site.nothing (hs.closed_part _)

theorem step_askDevice {name : Text} {query : DeviceQuery} (ha : a = .askDevice name query) :
    Concurs a b b' := by
  subst ha
  apply h.concurs_withDevice hs name (by simp [Action.uses]) fun _ => rfl
  intro k hpart hstep hstep'
  have hdevice := h.site.device? hpart
  obtain ⟨d, hd, -⟩ := hpart
  have hd' := hdevice.trans hd
  apply h.concurs_of_idle hs (answerDevice query d)
  · simp only [hstep, hd]
  · simp only [hstep', hd']

omit h hs in
/-- A subscription that is dropped is to a remote of the part. -/
theorem local_dropSubscription {b₁ b₁' : Bench} {s : Subscription}
    (hsite : b₁.site.Agree (b.part a) b₁'.site) (hclosed : b₁.site.Closed (b.part a))
    (hheld : b₁'.isHeld s.remote = b₁.isHeld s.remote) (hremote : s.remote ∈ b.touches a) :
    Site.Local (b.part a) b₁.site b₁'.site (b₁.dropSubscription s).1.site
      (b₁'.dropSubscription s).1.site (b₁.dropSubscription s).2 (b₁'.dropSubscription s).2 := by
  cases hexists : b₁.isHeld s.remote with
  | false =>
    rw [dropSubscription_of_dead hexists, dropSubscription_of_dead (hheld.trans hexists)]
    exact hsite.nothing hclosed
  | true =>
    rw [dropSubscription, dropSubscription, if_pos hexists, if_pos (hheld.trans hexists)]
    exact hsite.unsubscribe hclosed hremote s.observer

theorem step_unsubscribe {name : Text} (ha : a = .unsubscribe name) : Concurs a b b' := by
  subst ha
  have huses : Label.subscription name ∈ (Action.unsubscribe name).uses := by simp [Action.uses]
  have hname : b'.subscriptions.get? name = b.subscriptions.get? name := h.labels huses
  cases hsub : b.subscriptions.get? name with
  | none =>
    rw [hsub] at hname
    apply h.concurs_of_idle hs (.unknown name)
    · simp only [step, hsub]
    · simp only [step, hname]
  | some s =>
    rw [hsub] at hname
    have htouched : s.remote ∈ b.touches (.unsubscribe name) :=
      mem_touches huses (by simp [Bench.remoteOf, hsub])
    have hlocal := local_dropSubscription h.site (hs.closed_part _) (h.held htouched) htouched
    have hnames := subscriptions_dropSubscription? b (some s)
    have hnames' := subscriptions_dropSubscription? b' (some s)
    have hstep := Bench.step_unsubscribe hsub
    have hstep' := Bench.step_unsubscribe hname
    constructor
    · rw [hstep, hstep', hlocal.trace]
    · rw [hstep, hstep']
      exact hlocal
    · intro l hl _
      obtain rfl : l = .subscription name := by simpa [Action.binds] using hl
      rw [hstep, hstep']
      simp [SameAt]

omit hs in
/-- A recorder that is added takes the place of the one that had the name. -/
theorem local_resubscribe {name : Text} {holder : Holder} {failsOn : Option Connection}
    (ha : a = .subscribe name holder failsOn) {id : ObserverId}
    (hlocal : Site.Local (b.part a) b.site b'.site
      (b.site.subscribe key (.recorder name failsOn)).site
      (b'.site.subscribe key (.recorder name failsOn)).site
      (b.site.subscribe key (.recorder name failsOn)).trace
      (b'.site.subscribe key (.recorder name failsOn)).trace)
    (hresult : (b.site.subscribe key (.recorder name failsOn)).result = .ok id)
    (hresult' : (b'.site.subscribe key (.recorder name failsOn)).result = .ok id)
    {b₁ b₁' : Bench} (hb₁ : b₁ = { b with
      site := (b.site.subscribe key (.recorder name failsOn)).site
      subscriptions := b.subscriptions.put name { remote := key, observer := id } })
    (hb₁' : b₁' = { b' with
      site := (b'.site.subscribe key (.recorder name failsOn)).site
      subscriptions := b'.subscriptions.put name { remote := key, observer := id } }) :
    Site.Local (b.part a) b.site b'.site
      (b₁.dropSubscription? (b.subscriptions.get? name)).1.site
      (b₁'.dropSubscription? (b'.subscriptions.get? name)).1.site
      ((b.site.subscribe key (.recorder name failsOn)).trace ++
        (b₁.dropSubscription? (b.subscriptions.get? name)).2)
      ((b'.site.subscribe key (.recorder name failsOn)).trace ++
        (b₁'.dropSubscription? (b'.subscriptions.get? name)).2) := by
  have huses : Label.subscription name ∈ a.uses := by simp [ha, Action.uses]
  have hname : b'.subscriptions.get? name = b.subscriptions.get? name := h.labels huses
  have hadded : Site.Local (b.part a) b.site b'.site b₁.site b₁'.site
      (b.site.subscribe key (.recorder name failsOn)).trace
      (b'.site.subscribe key (.recorder name failsOn)).trace := by
    rw [hb₁, hb₁']
    exact hlocal
  rw [hname]
  refine hadded.trans ?_
  -- What had the name may observe another remote: that one is touched as well.
  cases hold : b.subscriptions.get? name with
  | none => exact hadded.agree.nothing hadded.closed
  | some s =>
    have htouched : s.remote ∈ b.touches a :=
      mem_touches huses (by simp [Bench.remoteOf, hold])
    have hheld : b₁'.isHeld s.remote = b₁.isHeld s.remote := by
      rw [hb₁, hb₁', isHeld_subscribe hresult, isHeld_subscribe hresult', h.held htouched]
    exact local_dropSubscription hadded.agree hadded.closed hheld htouched

theorem step_subscribe {name : Text} {holder : Holder} {failsOn : Option Connection}
    (ha : a = .subscribe name holder failsOn) : Concurs a b b' := by
  subst ha
  apply h.concurs_withRemote hs holder (by simp [Action.uses]) fun _ => rfl
  intro key hkey hkey' htouched
  obtain ⟨hlocal, hsame⟩ :=
    h.site.subscribe_recorder (hs.closed_part _) htouched name failsOn
  cases hresult : (b.site.subscribe key (.recorder name failsOn)).result with
  | error panic =>
    have hstep := step_subscribe_of_error hkey hresult
    have hstep' := step_subscribe_of_error hkey' (hsame.trans hresult)
    constructor
    · rw [hstep, hstep', hlocal.trace]
    · rw [hstep, hstep']
      exact hlocal
    · intro l hl _
      have hlabel := h.labels (uses_of_binds hl)
      obtain rfl : l = .subscription name := by simpa [Action.binds] using hl
      rw [hstep, hstep']
      exact hlabel
  | ok id =>
    have hresult' := hsame.trans hresult
    have hall := h.local_resubscribe rfl hlocal hresult hresult' rfl rfl
    have hstep := step_subscribe_of_ok hkey hresult rfl
    have hstep' := step_subscribe_of_ok hkey' hresult' rfl
    constructor
    · rw [hstep, hstep', hall.trace]
    · rw [hstep, hstep']
      exact hall
    · intro l hl _
      obtain rfl : l = .subscription name := by simpa [Action.binds] using hl
      rw [hstep, hstep']
      simp [SameAt]

/-- An action that is carried out through handles, devices and subscriptions does the same on
benches that look the same to it. -/
theorem step (ha : a.onRemotes = true) : Concurs a b b' := by
  cases hcase : a with
  | cloneRemote => exact hcase ▸ h.step_cloneRemote hs hcase
  | dropRemote => exact hcase ▸ h.step_dropRemote hs hcase
  | newDevice => exact hcase ▸ h.step_newDevice hs hcase
  | dropDevice => exact hcase ▸ h.step_dropDevice hs hcase
  | start => exact hcase ▸ h.step_start hs hcase
  | setState => exact hcase ▸ h.step_setState hs hcase
  | askRemote => exact hcase ▸ h.step_askRemote hs hcase
  | askDevice => exact hcase ▸ h.step_askDevice hs hcase
  | subscribe => exact hcase ▸ h.step_subscribe hs hcase
  | unsubscribe => exact hcase ▸ h.step_unsubscribe hs hcase
  | newRemote | newChannel | dropSender | closeReceiver | dropReceiver | receive =>
    simp [hcase, Action.onRemotes] at ha

end SameFor

end Bench

end DeviceTwin
