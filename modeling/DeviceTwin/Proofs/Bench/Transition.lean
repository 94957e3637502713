import DeviceTwin.Bench.Basic
import DeviceTwin.Proofs.Site.Operations

/-!
# Transitions of a bench

`Transition b a b' o` lists what carrying out an action can amount to, with everything that was
found out on the way: the remote behind a holder, the device behind a name.  `transition_step` says
that a step is always one of these.  Invariants of a bench are proved by going through the
transitions, without looking into `step` again.
-/

namespace DeviceTwin

namespace Bench

/-- The bench with a new device in the place of a name; what stood there is not dropped yet. -/
def addDevice (b : Bench) (device : Text) (remote : RemoteKey) (channels : List ChannelKey) :
    Bench :=
  let (site, senders) := b.site.addSenders channels
  { b with
    site := (site.addDevice remote senders).1
    devices := b.devices.put device b.site.devices.length }

/-- Drops a device, if there is one to be dropped. -/
def dropDevice? (b : Bench) : Option DeviceKey → Bench × Trace
  | none => (b, [])
  | some key => b.dropDeviceKey key

/-- Drops a subscription, if there is one to be dropped. -/
def dropSubscription? (b : Bench) : Option Subscription → Bench × Trace
  | none => (b, [])
  | some s => b.dropSubscription s

/-- What an action can amount to. -/
inductive Transition (b : Bench) : Action → Bench → Outcome → Prop where
  /-- Nothing changes and nobody is called. -/
  | idle (a : Action) (answer : Answer) : Transition b a b { answer }
  /-- Only channels change, and nobody is called. -/
  | channels (a : Action) (answer : Answer) {b' : Bench}
      (remotes : b'.site.remotes = b.site.remotes) (devices : b'.site.devices = b.site.devices)
      (handles : b'.handles = b.handles) (names : b'.devices = b.devices)
      (subscriptions : b'.subscriptions = b.subscriptions) : Transition b a b' { answer }
  | cloneRemote (handle : Text) (source : Holder) {key : RemoteKey}
      (hkey : b.remoteKey? source = some key) :
      Transition b (.cloneRemote handle source) { b with handles := b.handles.put handle key }
        { answer := .done }
  | dropRemote (handle : Text) :
      Transition b (.dropRemote handle) { b with handles := b.handles.erase handle }
        { answer := .done }
  | newRemote (handle name : Text) :
      Transition b (.newRemote handle name)
        { b with
          site := (b.site.addRemote name).1
          handles := b.handles.put handle b.site.remotes.length }
        { answer := .done }
  | newDevice (device : Text) (remote : Holder) (channels : List Text) {key : RemoteKey}
      (keys : List ChannelKey) (hkey : b.remoteKey? remote = some key) :
      Transition b (.newDevice device remote channels)
        ((b.addDevice device key keys).dropDevice? (b.devices.get? device)).1
        { answer := .done
          trace := ((b.addDevice device key keys).dropDevice? (b.devices.get? device)).2 }
  | dropDevice (device : Text) {key : DeviceKey} (hkey : b.devices.get? device = some key) :
      Transition b (.dropDevice device)
        { b with site := (b.site.dropDevice key).1, devices := b.devices.erase device }
        { answer := .done, trace := (b.site.dropDevice key).2 }
  | start (device : Text) {key : DeviceKey} (hkey : b.devices.get? device = some key)
      (answer : Except StartError Unit → Answer) :
      Transition b (.start device) (b.conclude (b.site.start key) answer).1
        (b.conclude (b.site.start key) answer).2
  | setState (remote : Holder) (state : Connection) (upset : List ObserverId) {key : RemoteKey}
      (hkey : b.remoteKey? remote = some key) (answer : Unit → Answer) :
      Transition b (.setState remote state upset)
        (b.conclude (b.site.setState key state upset) answer).1
        (b.conclude (b.site.setState key state upset) answer).2
  /-- An observer is not added. -/
  | refused (subscription : Text) (remote : Holder) (failsOn : Option Connection)
      {key : RemoteKey} (hkey : b.remoteKey? remote = some key) {panic : Panic}
      (result : (b.site.subscribe key (.recorder subscription failsOn)).result = .error panic) :
      Transition b (.subscribe subscription remote failsOn)
        { b with site := (b.site.subscribe key (.recorder subscription failsOn)).site }
        { answer := .panicked panic
          trace := (b.site.subscribe key (.recorder subscription failsOn)).trace }
  /-- An observer is added, and a subscription that had the name is dropped. -/
  | subscribed (subscription : Text) (remote : Holder) (failsOn : Option Connection)
      {key : RemoteKey} (hkey : b.remoteKey? remote = some key) {id : ObserverId}
      (result : (b.site.subscribe key (.recorder subscription failsOn)).result = .ok id)
      {b₁ : Bench} (hb₁ : b₁ = { b with
        site := (b.site.subscribe key (.recorder subscription failsOn)).site
        subscriptions := b.subscriptions.put subscription { remote := key, observer := id } }) :
      Transition b (.subscribe subscription remote failsOn)
        (b₁.dropSubscription? (b.subscriptions.get? subscription)).1
        { answer := .subscribed id
          trace := (b.site.subscribe key (.recorder subscription failsOn)).trace ++
            (b₁.dropSubscription? (b.subscriptions.get? subscription)).2 }
  | unsubscribe (subscription : Text) {s : Subscription}
      (hs : b.subscriptions.get? subscription = some s) :
      Transition b (.unsubscribe subscription)
        { (b.dropSubscription s).1 with
          subscriptions := (b.dropSubscription s).1.subscriptions.erase subscription }
        { answer := .done, trace := (b.dropSubscription s).2 }

theorem remotes_addChannel (s : Site) (buffer : Nat) :
    (s.addChannel buffer).site.remotes = s.remotes := by
  unfold Site.addChannel
  split <;> rfl

theorem devices_addChannel (s : Site) (buffer : Nat) :
    (s.addChannel buffer).site.devices = s.devices := by
  unfold Site.addChannel
  split <;> rfl

/-- What is done with a remote is a transition, if it is one whenever the holder leads to one. -/
theorem transition_withRemote {b : Bench} {a : Action} {holder : Holder}
    {f : RemoteKey → Bench × Outcome}
    (h : ∀ key, b.remoteKey? holder = some key → Transition b a (f key).1 (f key).2) :
    Transition b a (b.withRemote holder f).1 (b.withRemote holder f).2 := by
  cases hkey : b.remoteKey? holder with
  | none =>
    simp only [withRemote, hkey]
    exact .idle a _
  | some key =>
    simp only [withRemote, hkey]
    exact h key hkey

theorem transition_withDevice {b : Bench} {a : Action} {name : Text}
    {f : DeviceKey → Bench × Outcome}
    (h : ∀ key, b.devices.get? name = some key → Transition b a (f key).1 (f key).2) :
    Transition b a (b.withDevice name f).1 (b.withDevice name f).2 := by
  cases hkey : b.devices.get? name with
  | none =>
    simp only [withDevice, hkey]
    exact .idle a _
  | some key =>
    simp only [withDevice, hkey]
    exact h key hkey

theorem transition_withChannel {b : Bench} {a : Action} {name : Text}
    {f : ChannelEnds → Bench × Outcome}
    (h : ∀ ends, Transition b a (f ends).1 (f ends).2) :
    Transition b a (b.withChannel name f).1 (b.withChannel name f).2 := by
  cases hends : b.channels.get? name with
  | none =>
    simp only [withChannel, hends]
    exact .idle a _
  | some ends =>
    simp only [withChannel, hends]
    exact h ends

section Holder

variable {b : Bench} {holder : Holder} {key : RemoteKey} (hkey : b.remoteKey? holder = some key)

include hkey

theorem step_setState (state : Connection) (upset : List ObserverId) :
    b.step (.setState holder state upset) =
      b.conclude (b.site.setState key state upset) fun () => .done := by
  simp [step, withRemote, hkey]

theorem step_askRemote (query : RemoteQuery) :
    b.step (.askRemote holder query) =
      b.conclude (b.site.inspect key (answerRemote query)) id := by
  simp [step, withRemote, hkey]

theorem step_newDevice {device : Text} {channels : List Text} {keys : List ChannelKey}
    (hkeys : b.channelKeys channels = .ok keys) :
    b.step (.newDevice device holder channels) =
      (((b.addDevice device key keys).dropDevice? (b.devices.get? device)).1,
        { answer := .done
          trace := ((b.addDevice device key keys).dropDevice? (b.devices.get? device)).2 }) := by
  cases hold : b.devices.get? device with
  | none => simp [step, withRemote, hkey, hkeys, hold, addDevice, dropDevice?, Site.addDevice]
  | some old => simp [step, withRemote, hkey, hkeys, hold, addDevice, dropDevice?, Site.addDevice]

variable {name : Text} {failsOn : Option Connection}

theorem step_subscribe_of_error {panic : Panic}
    (hresult : (b.site.subscribe key (.recorder name failsOn)).result = .error panic) :
    b.step (.subscribe name holder failsOn) =
      ({ b with site := (b.site.subscribe key (.recorder name failsOn)).site },
        { answer := .panicked panic
          trace := (b.site.subscribe key (.recorder name failsOn)).trace }) := by
  simp [step, withRemote, hkey, conclude, hresult]

theorem step_subscribe_of_ok {id : ObserverId}
    (hresult : (b.site.subscribe key (.recorder name failsOn)).result = .ok id) {b₁ : Bench}
    (hb₁ : b₁ = { b with
      site := (b.site.subscribe key (.recorder name failsOn)).site
      subscriptions := b.subscriptions.put name { remote := key, observer := id } }) :
    b.step (.subscribe name holder failsOn) =
      ((b₁.dropSubscription? (b.subscriptions.get? name)).1,
        { answer := .subscribed id
          trace := (b.site.subscribe key (.recorder name failsOn)).trace ++
            (b₁.dropSubscription? (b.subscriptions.get? name)).2 }) := by
  subst hb₁
  cases hold : b.subscriptions.get? name with
  | none => simp [step, withRemote, hkey, conclude, hresult, hold, dropSubscription?]
  | some old => simp [step, withRemote, hkey, conclude, hresult, hold, dropSubscription?]

end Holder

theorem step_dropDevice {b : Bench} {name : Text} {k : DeviceKey}
    (hk : b.devices.get? name = some k) :
    b.step (.dropDevice name) =
      ({ b with site := (b.site.dropDevice k).1, devices := b.devices.erase name },
        { answer := .done, trace := (b.site.dropDevice k).2 }) := by
  simp [step, withDevice, hk, dropDeviceKey]

theorem step_unsubscribe {b : Bench} {name : Text} {s : Subscription}
    (hs : b.subscriptions.get? name = some s) :
    b.step (.unsubscribe name) =
      ({ (b.dropSubscription s).1 with
          subscriptions := (b.dropSubscription s).1.subscriptions.erase name },
        { answer := .done, trace := (b.dropSubscription s).2 }) := by
  simp only [step, hs]

/-- What is answered with a number has added an observer. -/
theorem exists_of_subscribed {b : Bench} {name : Text} {holder : Holder}
    {failsOn : Option Connection} {id : ObserverId}
    (hanswer : (b.step (.subscribe name holder failsOn)).2.answer = .subscribed id) :
    ∃ key, b.remoteKey? holder = some key ∧
      (b.site.subscribe key (.recorder name failsOn)).result = .ok id := by
  cases hkey : b.remoteKey? holder with
  | none => simp [step, withRemote, hkey] at hanswer
  | some key =>
    cases hresult : (b.site.subscribe key (.recorder name failsOn)).result with
    | error panic => simp [step_subscribe_of_error hkey hresult] at hanswer
    | ok number =>
      rw [step_subscribe_of_ok hkey hresult rfl] at hanswer
      obtain rfl : number = id := Answer.subscribed.inj hanswer
      exact ⟨key, rfl, hresult⟩

theorem exists_keys_of_newDevice {b : Bench} {name : Text} {holder : Holder}
    {channels : List Text}
    (hanswer : (b.step (.newDevice name holder channels)).2.answer = .done) :
    ∃ key keys, b.remoteKey? holder = some key ∧ b.channelKeys channels = .ok keys := by
  cases hkey : b.remoteKey? holder with
  | none => simp [step, withRemote, hkey] at hanswer
  | some key =>
    cases hkeys : b.channelKeys channels with
    | error unknown => simp [step, withRemote, hkey, hkeys] at hanswer
    | ok keys => exact ⟨key, keys, rfl, rfl⟩

/-- A step is a transition. -/
theorem transition_step (b : Bench) (a : Action) : Transition b a (b.step a).1 (b.step a).2 := by
  cases a with
  | newRemote handle name => exact .newRemote handle name
  | cloneRemote handle source =>
    exact transition_withRemote fun key hkey => .cloneRemote handle source hkey
  | dropRemote handle => exact .dropRemote handle
  | newDevice device remote channels =>
    cases hkey : b.remoteKey? remote with
    | none =>
      simp only [step, withRemote, hkey]
      exact .idle _ _
    | some key =>
      cases hkeys : b.channelKeys channels with
      | error name =>
        simp only [step, withRemote, hkey, hkeys]
        exact .idle _ _
      | ok keys =>
        rw [step_newDevice hkey hkeys]
        exact .newDevice device remote channels keys hkey
  | dropDevice device => exact transition_withDevice fun key hkey => .dropDevice device hkey
  | start device => exact transition_withDevice fun key hkey => .start device hkey _
  | setState remote state upset =>
    exact transition_withRemote fun key hkey => .setState remote state upset hkey _
  | askRemote remote query =>
    apply transition_withRemote
    intro key _
    simp only [conclude, Site.site_inspect, Site.trace_inspect]
    exact .idle _ _
  | askDevice device query =>
    apply transition_withDevice
    intro key _
    cases b.site.device? key with
    | none => exact .idle _ _
    | some d => exact .idle _ _
  | subscribe subscription remote failsOn =>
    cases hkey : b.remoteKey? remote with
    | none =>
      simp only [step, withRemote, hkey]
      exact .idle _ _
    | some key =>
      cases hresult : (b.site.subscribe key (.recorder subscription failsOn)).result with
      | error panic =>
        rw [step_subscribe_of_error hkey hresult]
        exact .refused subscription remote failsOn hkey hresult
      | ok id =>
        rw [step_subscribe_of_ok hkey hresult rfl]
        exact .subscribed subscription remote failsOn hkey hresult rfl
  | unsubscribe subscription =>
    cases hs : b.subscriptions.get? subscription with
    | none =>
      simp only [step, hs]
      exact .idle _ _
    | some s =>
      rw [step_unsubscribe hs]
      exact .unsubscribe subscription hs
  | newChannel channel buffer =>
    cases hresult : (b.site.addChannel buffer).result with
    | error panic =>
      simp only [step, hresult]
      exact .idle _ _
    | ok new =>
      have hr := remotes_addChannel b.site buffer
      have hd := devices_addChannel b.site buffer
      cases hold : b.channels.get? channel with
      | none =>
        simp only [step, hresult, hold]
        exact .channels _ _ hr hd rfl rfl rfl
      | some ends =>
        simp only [step, hresult, hold]
        exact .channels _ _ hr hd rfl rfl rfl
  | dropSender channel =>
    exact transition_withChannel fun ends => .channels _ _ rfl rfl rfl rfl rfl
  | closeReceiver channel =>
    exact transition_withChannel fun ends => .channels _ _ rfl rfl rfl rfl rfl
  | dropReceiver channel =>
    exact transition_withChannel fun ends => .channels _ _ rfl rfl rfl rfl rfl
  | receive channel limit =>
    apply transition_withChannel
    intro ends
    cases b.site.channel? ends.channel with
    | none => exact .idle _ _
    | some c => exact .channels _ _ rfl rfl rfl rfl rfl

end Bench

end DeviceTwin
