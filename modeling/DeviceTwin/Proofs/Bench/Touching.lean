import DeviceTwin.Proofs.Bench.Channels
import DeviceTwin.Proofs.Bench.Registry
import DeviceTwin.Proofs.Site.Parts

/-!
# What an action touches

An action is carried out through handles, devices and subscriptions, and has to do with the remotes
behind them and nothing else (`Bench.touches`).  Among these are the remotes of what it replaces.
With the devices of those remotes, and with the channels that these devices publish to, they make a
part of the site that is closed (`Bench.part`).
-/

namespace DeviceTwin

/-- A name under which a remote is held or observed. -/
inductive Label where
  | handle (name : Text)
  | device (name : Text)
  | subscription (name : Text)
  deriving DecidableEq, Repr

/-- The label of a holder. -/
def Holder.label : Holder → Label
  | handle name => .handle name
  | device name => .device name

namespace Action

/-- The labels that an action names. -/
def uses : Action → List Label
  | newRemote handle _ => [.handle handle]
  | cloneRemote handle source => [.handle handle, source.label]
  | dropRemote handle => [.handle handle]
  | newDevice device remote _ => [.device device, remote.label]
  | dropDevice device => [.device device]
  | start device => [.device device]
  | setState remote _ _ => [remote.label]
  | askRemote remote _ => [remote.label]
  | askDevice device _ => [.device device]
  | subscribe subscription remote _ => [.subscription subscription, remote.label]
  | unsubscribe subscription => [.subscription subscription]
  | newChannel .. | dropSender .. | closeReceiver .. | dropReceiver .. | receive .. => []

/-- Those of the labels that an action names to which it may give another meaning. -/
def binds : Action → List Label
  | newRemote handle _ => [.handle handle]
  | cloneRemote handle _ => [.handle handle]
  | dropRemote handle => [.handle handle]
  | newDevice device _ _ => [.device device]
  | dropDevice device => [.device device]
  | subscribe subscription _ _ => [.subscription subscription]
  | unsubscribe subscription => [.subscription subscription]
  | _ => []

/-- The names of the channels to which an action makes senders. -/
def targets : Action → List Text
  | newDevice _ _ channels => channels
  | _ => []

/-- Whether an action is carried out through a handle, a device or a subscription.  The others make
a remote or have to do with a channel. -/
def onRemotes : Action → Bool
  | newRemote .. | newChannel .. | dropSender .. | closeReceiver .. | dropReceiver ..
  | receive .. => false
  | _ => true

end Action

namespace Bench

/-- The remote that is held or observed under a label. -/
def remoteOf (b : Bench) : Label → Option RemoteKey
  | .handle name => b.handles.get? name
  | .device name => b.remoteKey? (.device name)
  | .subscription name => (b.subscriptions.get? name).map (·.remote)

/-- The remotes that an action has to do with: those behind the labels that it names, before it is
carried out. -/
def touches (b : Bench) (a : Action) : List RemoteKey := a.uses.filterMap b.remoteOf

/-- The channels that an action has to do with: those to which the devices of the remotes that it
touches publish, and those for which it makes senders. -/
def reaches (b : Bench) (a : Action) : List ChannelKey :=
  (b.site.devices.filterMap id |>.filter (·.remote ∈ b.touches a)).flatMap
      (·.senders.map (·.channel)) ++
    a.targets.filterMap fun name => (b.channels.get? name).map (·.channel)

/-- The remotes that an action touches, the devices of these, and the channels that it reaches. -/
def part (b : Bench) (a : Action) : Part where
  remotes key := key ∈ b.touches a
  devices k := ∃ d, b.site.device? k = some d ∧ d.remote ∈ b.touches a
  channels ch := ch ∈ b.reaches a

/-- A label stands for the same on two benches. -/
def SameAt (b b' : Bench) : Label → Prop
  | .handle name => b'.handles.get? name = b.handles.get? name
  | .device name => b'.devices.get? name = b.devices.get? name
  | .subscription name => b'.subscriptions.get? name = b.subscriptions.get? name

/-- The device that an action makes. -/
def made (b : Bench) : Action → Option Device
  | .newDevice _ holder channels =>
    match b.remoteKey? holder, b.channelKeys channels with
    | some remote, .ok keys => some { remote, senders := (b.site.addSenders keys).2 }
    | _, _ => none
  | _ => none

variable {b b' : Bench} {a : Action} {o : Outcome} {key : RemoteKey} {k : DeviceKey} {l : Label}

theorem remoteOf_label (b : Bench) (holder : Holder) :
    b.remoteOf holder.label = b.remoteKey? holder := by
  cases holder <;> rfl

theorem mem_touches (hl : l ∈ a.uses) (hkey : b.remoteOf l = some key) : key ∈ b.touches a :=
  List.mem_filterMap.2 ⟨l, hl, hkey⟩

theorem uses_of_binds (h : l ∈ a.binds) : l ∈ a.uses := by
  cases a <;> simp_all [Action.binds, Action.uses]

theorem sameAt_refl (b : Bench) (l : Label) : b.SameAt b l := by
  cases l <;> rfl

/-! ## The part of an action -/

theorem Sound.closed_part (h : b.Sound) (a : Action) : b.site.Closed (b.part a) where
  observers hkey hr hmem := by
    obtain ⟨d, hd, rfl, -⟩ := h.site.observed hr hmem
    exact ⟨d, hd, hkey⟩
  remote hk hd := by
    obtain ⟨d, hd', hremote⟩ := hk
    exact Option.some.inj (hd'.symm.trans hd) ▸ hremote
  senders hk hd x hx := by
    obtain ⟨d, hd', hremote⟩ := hk
    obtain rfl := Option.some.inj (hd'.symm.trans hd)
    have hmem : some d ∈ b.site.devices := List.mem_of_getElem? (Option.join_eq_some_iff.1 hd)
    have hlisted : d ∈ (b.site.devices.filterMap id).filter (·.remote ∈ b.touches a) :=
      List.mem_filter.2 ⟨List.mem_filterMap.2 ⟨some d, hmem, rfl⟩, by simpa using hremote⟩
    exact List.mem_append_left _
      (List.mem_flatMap.2 ⟨d, hlisted, List.mem_map_of_mem hx⟩)

theorem agree_part (b : Bench) (a : Action) : b.site.Agree (b.part a) b.site where
  remote? _ := rfl
  device? _ := rfl
  channel? _ := rfl
  made hk := by
    obtain ⟨d, hd, -⟩ := hk
    exact ⟨Site.lt_length_of_device? hd, Site.lt_length_of_device? hd⟩

/-- The devices that an action names belong to its part. -/
theorem Sound.devices_part (h : b.Sound) {name : Text} (hname : .device name ∈ a.uses)
    (hk : b.devices.get? name = some k) : (b.part a).devices k := by
  obtain ⟨d, hd⟩ := h.devices.leads hk
  exact ⟨d, hd, mem_touches hname (by simp [remoteOf, remoteKey?, hk, hd])⟩

theorem channels_part {keys : List ChannelKey} (hkeys : b.channelKeys a.targets = .ok keys) :
    ∀ ch ∈ keys, (b.part a).channels ch := by
  have hall : ∀ {names : List Text} {keys : List ChannelKey}, b.channelKeys names = .ok keys →
      names.filterMap (fun name => (b.channels.get? name).map (·.channel)) = keys := by
    intro names
    induction names with
    | nil => exact fun hkeys => Except.ok.inj hkeys
    | cons name rest ih =>
      intro keys hkeys
      cases hname : b.channels.get? name with
      | none => simp [channelKeys, hname] at hkeys
      | some ends =>
        cases hrest : b.channelKeys rest with
        | error unknown => simp [channelKeys, hname, hrest, Except.map] at hkeys
        | ok others =>
          obtain rfl : ends.channel :: others = keys := by
            simpa [channelKeys, hname, hrest, Except.map] using hkeys
          simp [hname, ih hrest]
  intro ch hch
  exact List.mem_append_right _ ((hall hkeys).symm ▸ hch)

/-! ## Labels that keep their meaning -/

theorem Transition.sameAt (ht : Transition b a b' o) (hl : l ∉ a.binds) : b.SameAt b' l := by
  cases ht with
  | idle | start | setState | refused => exact sameAt_refl b l
  | channels a answer remotes devices handles names subscriptions =>
    cases l with
    | handle name => exact congrArg (·.get? name) handles
    | device name => exact congrArg (·.get? name) names
    | subscription name => exact congrArg (·.get? name) subscriptions
  -- Each of the others changes what stands under one name, which is the name in question only if
  -- the label is bound.
  | cloneRemote | dropRemote | newRemote | dropDevice =>
    cases l <;> simp_all [SameAt, Action.binds, eq_comm]
  | newDevice => cases l <;> simp_all [SameAt, Action.binds, addDevice, eq_comm]
  | subscribed _ _ _ _ _ hb₁ =>
    subst hb₁
    cases l <;> simp_all [SameAt, Action.binds, eq_comm]
  | @unsubscribe name s =>
    have hhandles := handles_dropSubscription? b (some s)
    have hdevices := devices_dropSubscription? b (some s)
    have hsubscriptions := subscriptions_dropSubscription? b (some s)
    simp only [dropSubscription?] at hhandles hdevices hsubscriptions
    cases l <;> simp_all [SameAt, Action.binds, eq_comm]

/-! ## New devices -/

theorem made_eq_some {d : Device} (h : b.made a = some d) :
    ∃ name holder channels keys, a = .newDevice name holder channels ∧
      b.remoteKey? holder = some d.remote ∧ b.channelKeys channels = .ok keys ∧
        d = { remote := d.remote, senders := (b.site.addSenders keys).2 } := by
  cases a with
  | newDevice name holder channels =>
    cases hkey : b.remoteKey? holder with
    | none => simp [made, hkey] at h
    | some key =>
      cases hkeys : b.channelKeys channels with
      | error unknown => simp [made, hkey, hkeys] at h
      | ok keys =>
        obtain rfl := Option.some.inj ((by simp [made, hkey, hkeys] :
          b.made (.newDevice name holder channels) =
            some { remote := key, senders := (b.site.addSenders keys).2 }).symm.trans h)
        exact ⟨name, holder, channels, keys, rfl, hkey, hkeys, rfl⟩
  | _ => cases h

/-- A device that is made gets the next key, and its name stands for that. -/
theorem Sound.step_of_made (h : b.Sound) {d : Device} (hmade : b.made a = some d) :
    d.remote ∈ b.touches a ∧ (b.step a).1.site.devices.length = b.site.devices.length + 1 ∧
      (b.step a).1.site.device? b.site.devices.length = some d ∧
        ∀ {name}, .device name ∈ a.binds →
          (b.step a).1.devices.get? name = some b.site.devices.length := by
  obtain ⟨name, holder, channels, keys, rfl, hkey, hkeys, hd⟩ := made_eq_some hmade
  have hnew : (b.addDevice name d.remote keys).site.device? b.site.devices.length = some d := by
    rw [device?_addDevice, if_pos rfl, ← hd]
  rw [step_newDevice hkey hkeys]
  refine ⟨mem_touches (l := holder.label) (by simp [Action.uses]) (by rwa [remoteOf_label]),
    ?_, ?_, ?_⟩
  · have hsize := (size_dropDevice? (b.addDevice name d.remote keys)
      (b.devices.get? name)).trans (size_addDevice b name d.remote keys)
    exact congrArg Prod.snd hsize
  · cases hold : b.devices.get? name with
    | none => exact hnew
    | some old =>
      obtain ⟨d₀, hd₀⟩ := h.devices.leads hold
      have hne : old ≠ b.site.devices.length := Nat.ne_of_lt (Site.lt_length_of_device? hd₀)
      have hadded := device?_addDevice_of_some hd₀ name d.remote keys
      change ((b.addDevice name d.remote keys).site.dropDevice old).1.device? _ = _
      rw [Site.device?_dropDevice hadded, if_neg hne, hnew]
  · intro other hother
    obtain rfl : other = name := by simpa [Action.binds] using hother
    simp [addDevice]

theorem Transition.length_devices (ht : Transition b a b' o)
    (ha : ∀ name holder channels, a ≠ .newDevice name holder channels) :
    b'.site.devices.length = b.site.devices.length := by
  cases ht with
  | idle | cloneRemote | dropRemote | newRemote => rfl
  | channels a answer remotes devices => rw [devices]
  | newDevice => exact absurd rfl (ha _ _ _)
  | dropDevice => exact congrArg Prod.snd (Site.size_dropDevice _ _)
  | start => exact congrArg Prod.snd (Site.size_start _ _)
  | setState => exact congrArg Prod.snd (Site.size_setState _ _ _ _)
  | refused => exact congrArg Prod.snd (Site.size_subscribe _ _ _)
  | subscribed _ _ _ _ _ hb₁ =>
    refine (congrArg Prod.snd (size_dropSubscription? _ _)).trans ?_
    rw [hb₁]
    exact congrArg Prod.snd (Site.size_subscribe _ _ _)
  | @unsubscribe subscription s => exact congrArg Prod.snd (size_dropSubscription? b (some s))

/-- An action that is to make a device, and does not, does nothing. -/
theorem step_newDevice_of_none {name : Text} {holder : Holder} {channels : List Text}
    (h : b.made (.newDevice name holder channels) = none) :
    ∃ answer, b.step (.newDevice name holder channels) = (b, { answer }) := by
  cases hkey : b.remoteKey? holder with
  | none => exact ⟨.unknown (holderName holder), by simp only [step, withRemote, hkey]⟩
  | some key =>
    cases hkeys : b.channelKeys channels with
    | error unknown => exact ⟨.unknown unknown, by simp only [step, withRemote, hkey, hkeys]⟩
    | ok keys => simp [made, hkey, hkeys] at h

theorem length_step_of_none (h : b.made a = none) :
    (b.step a).1.site.devices.length = b.site.devices.length := by
  by_cases ha : ∃ name holder channels, a = .newDevice name holder channels
  · obtain ⟨name, holder, channels, rfl⟩ := ha
    obtain ⟨answer, hstep⟩ := step_newDevice_of_none h
    rw [hstep]
  · exact (transition_step b a).length_devices fun name holder channels heq =>
      ha ⟨name, holder, channels, heq⟩

theorem Sound.length_step (h : b.Sound) (a : Action) :
    (b.step a).1.site.devices.length = b.site.devices.length + (b.made a).toList.length := by
  cases hmade : b.made a with
  | none => exact length_step_of_none hmade
  | some d => exact (h.step_of_made hmade).2.1

/-! ## Names of channels -/

/-- An action on remotes gives no channel another name. -/
theorem channels_step (ha : a.onRemotes = true) : (b.step a).1.channels = b.channels := by
  have hremote : ∀ {holder : Holder} {f : RemoteKey → Bench × Outcome},
      (∀ key, (f key).1.channels = b.channels) →
        (b.withRemote holder f).1.channels = b.channels := by
    intro holder f hf
    cases hkey : b.remoteKey? holder with
    | none => simp only [withRemote, hkey]
    | some key => simpa only [withRemote, hkey] using hf key
  have hdevice : ∀ {name : Text} {f : DeviceKey → Bench × Outcome},
      (∀ k, (f k).1.channels = b.channels) → (b.withDevice name f).1.channels = b.channels := by
    intro name f hf
    cases hk : b.devices.get? name with
    | none => simp only [withDevice, hk]
    | some k => simpa only [withDevice, hk] using hf k
  cases a with
  | cloneRemote | setState | askRemote => exact hremote fun _ => rfl
  | dropRemote => rfl
  | dropDevice | start => exact hdevice fun _ => rfl
  | askDevice =>
    apply hdevice
    intro k
    cases b.site.device? k <;> rfl
  | newDevice name holder channels =>
    cases hmade : b.made (.newDevice name holder channels) with
    | none =>
      obtain ⟨answer, hstep⟩ := step_newDevice_of_none hmade
      rw [hstep]
    | some d =>
      obtain ⟨_, _, _, keys, heq, hkey, hkeys, -⟩ := made_eq_some hmade
      cases heq
      rw [step_newDevice hkey hkeys, channels_dropDevice?]
      rfl
  | subscribe name holder failsOn =>
    cases hkey : b.remoteKey? holder with
    | none => simp only [step, withRemote, hkey]
    | some key =>
      cases hresult : (b.site.subscribe key (.recorder name failsOn)).result with
      | error panic => rw [step_subscribe_of_error hkey hresult]
      | ok id => rw [step_subscribe_of_ok hkey hresult rfl, channels_dropSubscription?]
  | unsubscribe name =>
    cases hs : b.subscriptions.get? name with
    | none => simp only [step, hs]
    | some s =>
      rw [step_unsubscribe hs]
      exact channels_dropSubscription? b (some s)
  | newRemote | newChannel | dropSender | closeReceiver | dropReceiver | receive =>
    simp [Action.onRemotes] at ha

end Bench

end DeviceTwin
