import DeviceTwin.Proofs.Bench.Mirroring
import DeviceTwin.Proofs.Site.Senders

/-!
# What actions do to channels

`Turn b a b' o` lists what carrying out an action can amount to for the channels, as `Transition`
does for remotes and devices.  Most actions tell devices something, or nothing at all; a few make
channels, or give an end of one up; and receiving takes from a channel what waits.
-/

namespace DeviceTwin

/-- What becomes of a channel when ends of it are given up. -/
def ChannelEnds.giveUp (ends : ChannelEnds) (c : Channel) : Channel :=
  let c := match ends.sender with | some n => c.dropSender n | none => c
  if ends.receiver then c.dropReceiver else c

namespace ChannelEnds

variable {ends : ChannelEnds} {c : Channel}

theorem bare_giveUp (h : ends.receiver = false) : (ends.giveUp c).bare = c.bare := by
  unfold giveUp
  cases ends.sender <;> simp [h]

theorem giveUp_of_receiver (h : ends.receiver = true) :
    (ends.giveUp c).accepting = false ∧ (ends.giveUp c).waiting = [] ∧
      ∀ m, (ends.giveUp c).Paced m := by
  unfold giveUp
  simp only [h, if_true]
  exact ⟨rfl, rfl, Channel.paced_dropReceiver _⟩

theorem paced_giveUp {m : Nat} (h : c.Paced m) : (ends.giveUp c).Paced m := by
  cases hreceiver : ends.receiver with
  | false => exact h.of_bare (bare_giveUp hreceiver)
  | true => exact (giveUp_of_receiver hreceiver).2.2 m

theorem accepting_giveUp (h : c.accepting = false) : (ends.giveUp c).accepting = false := by
  cases hreceiver : ends.receiver with
  | false =>
    obtain ⟨-, -, haccepting, -⟩ := Channel.eq_of_bare (bare_giveUp hreceiver (c := c))
    rw [haccepting, h]
  | true => exact (giveUp_of_receiver hreceiver).1

end ChannelEnds

namespace Bench

/-- The channel that a name stands for, and whether the name still holds its receiver. -/
def end? (b : Bench) (name : Text) : Option (ChannelKey × Bool) :=
  (b.channels.get? name).map fun ends => (ends.channel, ends.receiver)

/-- Some name holds the receiver of a channel. -/
def Holds (b : Bench) (ch : ChannelKey) : Prop := ∃ name, b.end? name = some (ch, true)

/-- Names stand for channels that have been made, each for another one. -/
structure Wired (b : Bench) : Prop where
  made : ∀ {name ch receiver}, b.end? name = some (ch, receiver) → ch < b.site.channels.length
  injective : ∀ {name other ch receiver receiver'}, b.end? name = some (ch, receiver) →
    b.end? other = some (ch, receiver') → name = other

/-- What an action takes from a channel. -/
def withdrawals (ch : ChannelKey) (b : Bench) : Action → List Queue.Use
  | .receive name limit => if (b.end? name).any (·.1 = ch) then [.take limit] else []
  | _ => []

/-- The devices to which an action gives a sender of a channel, each as often as it gets one. -/
def grants (ch : ChannelKey) (b : Bench) : Action → List DeviceKey
  | .newDevice _ remote channels =>
    match b.remoteKey? remote, b.channelKeys channels with
    | some _, .ok keys => List.replicate (keys.count ch) b.site.devices.length
    | _, _ => []
  | _ => []

/-- The bench with a new channel under a name; what stood there is not given up yet. -/
def addChannel (b : Bench) (name : Text) (buffer : Nat) : Bench :=
  { b with
    site := { b.site with
      channels := b.site.channels ++ [{ buffer, senders := [0], issued := 1 }] }
    channels := b.channels.put name { channel := b.site.channels.length, sender := some 0 } }

/-- Gives ends of a channel up, if there are any. -/
def dropEnds? (b : Bench) : Option ChannelEnds → Bench
  | none => b
  | some ends => b.dropEnds ends

/-- What an action can amount to for the channels. -/
inductive Turn (b : Bench) : Action → Bench → Outcome → Prop where
  /-- Devices are told something, or nothing happens that a channel would notice. -/
  | told (a : Action) {b' : Bench} {o : Outcome} (names : ∀ name, b'.end? name = b.end? name)
      (tells : ∀ ch k m, Site.Tells ch k m b.site o.trace b'.site)
      (channels : b'.site.channels.length = b.site.channels.length)
      (devices : b'.site.devices.length = b.site.devices.length)
      (idle : ∀ ch, b.grants ch a = [] ∧ b.withdrawals ch a = []) : Turn b a b' o
  | newDevice (name : Text) (remote : Holder) (channels : List Text) {key : RemoteKey}
      {keys : List ChannelKey} (hkey : b.remoteKey? remote = some key)
      (hkeys : b.channelKeys channels = .ok keys) :
      Turn b (.newDevice name remote channels)
        ((b.addDevice name key keys).dropDevice? (b.devices.get? name)).1
        { answer := .done
          trace := ((b.addDevice name key keys).dropDevice? (b.devices.get? name)).2 }
  | newChannel (name : Text) (buffer : Nat) :
      Turn b (.newChannel name buffer)
        ((b.addChannel name buffer).dropEnds? (b.channels.get? name)) { answer := .done }
  /-- The sender of a name is given up, or its receiver if it still holds that. -/
  | givesUp (a : Action) {name : Text} {receiver : Bool} (ends : ChannelEnds)
      (held : b.end? name = some (ends.channel, receiver))
      (kept : ends.receiver = true → receiver = true) {b' : Bench}
      (names : ∀ other, b'.end? other =
        if name = other then some (ends.channel, receiver && !ends.receiver) else b.end? other)
      (site : b'.site = b.site.modifyChannel ends.channel ends.giveUp)
      (ha : a = .dropSender name ∨ a = .dropReceiver name) : Turn b a b' { answer := .done }
  | closes (name : Text) {key : ChannelKey} {receiver : Bool}
      (held : b.end? name = some (key, receiver)) :
      Turn b (.closeReceiver name)
        { b with site := b.site.modifyChannel key Channel.close } { answer := .done }
  | receives (name : Text) (limit : Option Nat) {key : ChannelKey} {receiver : Bool} {c : Channel}
      (held : b.end? name = some (key, receiver)) (hc : b.site.channel? key = some c) :
      Turn b (.receive name limit)
        { b with site := b.site.modifyChannel key fun _ => (c.withdraw limit).1 }
        { answer := .received (c.withdraw limit).2.1 (c.withdraw limit).2.2 }

variable {b b' : Bench} {a : Action} {o : Outcome} {ch : ChannelKey} {k : DeviceKey}

/-! ## Names -/

theorem end?_of_get? {name : Text} {ends : ChannelEnds} (h : b.channels.get? name = some ends) :
    b.end? name = some (ends.channel, ends.receiver) := by
  simp [end?, h]

theorem end?_put {name other : Text} {ends : ChannelEnds}
    (h : b'.channels = b.channels.put name ends) :
    b'.end? other =
      if name = other then some (ends.channel, ends.receiver) else b.end? other := by
  by_cases hname : name = other <;> simp [end?, h, hname]

theorem mem_of_channelKeys {names : List Text} {keys : List ChannelKey}
    (h : b.channelKeys names = .ok keys) {key : ChannelKey} (hkey : key ∈ keys) :
    ∃ name receiver, b.end? name = some (key, receiver) := by
  induction names generalizing keys with
  | nil =>
    obtain rfl : keys = [] := (Except.ok.inj h).symm
    simp at hkey
  | cons name rest ih =>
    cases hname : b.channels.get? name with
    | none => simp [channelKeys, hname] at h
    | some ends =>
      cases hrest : b.channelKeys rest with
      | error unknown => simp [channelKeys, hname, hrest, Except.map] at h
      | ok others =>
        obtain rfl : ends.channel :: others = keys := by
          simpa [channelKeys, hname, hrest, Except.map] using h
        rcases List.mem_cons.1 hkey with rfl | hkey
        · exact ⟨name, ends.receiver, end?_of_get? hname⟩
        · exact ih hrest hkey

/-! ## Every step is a turn -/

/-- Nothing that a channel would notice. -/
theorem turn_of_quiet (hnames : b'.channels = b.channels) (hsite : b.site.Quiet b'.site)
    (hdevices : b'.site.devices.length = b.site.devices.length)
    (hpublications : ∀ k, o.trace.publications k = []) (hoffers : ∀ ch, o.trace.offers ch = [])
    (hidle : ∀ ch, b.grants ch a = [] ∧ b.withdrawals ch a = []) : Turn b a b' o := by
  apply Turn.told a _ _ _ hdevices hidle
  · intro name
    simp [end?, hnames]
  · intro ch k m
    exact hsite.tells (hpublications k) (hoffers ch)
  · simpa using congrArg List.length hsite.channels

theorem turn_of_idle {answer : Answer}
    (hidle : ∀ ch, b.grants ch a = [] ∧ b.withdrawals ch a = []) : Turn b a b { answer } :=
  turn_of_quiet rfl (Site.Quiet.refl _) rfl (fun _ => rfl) (fun _ => rfl) hidle

section Dropped

variable (b) (s : Option Subscription) (old : Option DeviceKey)

theorem quiet_dropSubscription? : b.site.Quiet (b.dropSubscription? s).1.site := by
  cases s with
  | none => exact Site.Quiet.refl _
  | some s =>
    simp only [dropSubscription?, dropSubscription]
    split
    · exact Site.quiet_unsubscribe _ _ _
    · exact Site.Quiet.refl _

theorem channels_dropSubscription? : (b.dropSubscription? s).1.channels = b.channels := by
  cases s with
  | none => rfl
  | some s => simp only [dropSubscription?, dropSubscription]; split <;> rfl

theorem offers_dropSubscription? : (b.dropSubscription? s).2.offers ch = [] := by
  cases s with
  | none => rfl
  | some s =>
    simp only [dropSubscription?, dropSubscription]
    split
    · exact Site.offers_unsubscribe _ _ _
    · rfl

theorem publications_dropSubscription? : (b.dropSubscription? s).2.publications k = [] :=
  prompted_dropSubscription? b s k (Trace.deliveries_of_calls_eq_nil (calls_dropSubscription? b s))

theorem quiet_dropDevice? : b.site.Quiet (b.dropDevice? old).1.site := by
  cases old with
  | none => exact Site.Quiet.refl _
  | some old => exact Site.quiet_dropDevice _ _

theorem channels_dropDevice? : (b.dropDevice? old).1.channels = b.channels := by
  cases old <;> rfl

theorem offers_dropDevice? : (b.dropDevice? old).2.offers ch = [] := by
  cases old with
  | none => rfl
  | some old => exact Site.offers_dropDevice _ _

theorem publications_dropDevice? : (b.dropDevice? old).2.publications k = [] := by
  cases old with
  | none => rfl
  | some old => exact Site.publications_dropDevice _ _

end Dropped

theorem turn_withRemote {holder : Holder} {f : RemoteKey → Bench × Outcome}
    (hidle : ∀ ch, b.grants ch a = [] ∧ b.withdrawals ch a = [])
    (h : ∀ key, b.remoteKey? holder = some key → Turn b a (f key).1 (f key).2) :
    Turn b a (b.withRemote holder f).1 (b.withRemote holder f).2 := by
  cases hkey : b.remoteKey? holder with
  | none =>
    simp only [withRemote, hkey]
    exact turn_of_idle hidle
  | some key =>
    simp only [withRemote, hkey]
    exact h key hkey

theorem turn_withDevice {name : Text} {f : DeviceKey → Bench × Outcome}
    (hidle : ∀ ch, b.grants ch a = [] ∧ b.withdrawals ch a = [])
    (h : ∀ key, Turn b a (f key).1 (f key).2) :
    Turn b a (b.withDevice name f).1 (b.withDevice name f).2 := by
  cases hkey : b.devices.get? name with
  | none =>
    simp only [withDevice, hkey]
    exact turn_of_idle hidle
  | some key =>
    simp only [withDevice, hkey]
    exact h key

theorem turn_withChannel {name : Text} {f : ChannelEnds → Bench × Outcome}
    (hidle : b.channels.get? name = none →
      ∀ ch, b.grants ch a = [] ∧ b.withdrawals ch a = [])
    (h : ∀ ends, b.channels.get? name = some ends → Turn b a (f ends).1 (f ends).2) :
    Turn b a (b.withChannel name f).1 (b.withChannel name f).2 := by
  cases hends : b.channels.get? name with
  | none =>
    simp only [withChannel, hends]
    exact turn_of_idle (hidle hends)
  | some ends =>
    simp only [withChannel, hends]
    exact h ends hends

theorem turn_newDevice (b : Bench) (name : Text) (remote : Holder) (channels : List Text) :
    Turn b (.newDevice name remote channels) (b.step (.newDevice name remote channels)).1
      (b.step (.newDevice name remote channels)).2 := by
  cases hkey : b.remoteKey? remote with
  | none =>
    simp only [step, withRemote, hkey]
    exact turn_of_idle fun ch => ⟨by simp [grants, hkey], rfl⟩
  | some key =>
    cases hkeys : b.channelKeys channels with
    | error unknown =>
      simp only [step, withRemote, hkey, hkeys]
      exact turn_of_idle fun ch => ⟨by simp [grants, hkey, hkeys], rfl⟩
    | ok keys =>
      rw [step_newDevice hkey hkeys]
      exact .newDevice name remote channels hkey hkeys

theorem turn_subscribe (b : Bench) (name : Text) (holder : Holder) (failsOn : Option Connection) :
    Turn b (.subscribe name holder failsOn) (b.step (.subscribe name holder failsOn)).1
      (b.step (.subscribe name holder failsOn)).2 := by
  cases hkey : b.remoteKey? holder with
  | none =>
    simp only [step, withRemote, hkey]
    exact turn_of_idle fun _ => ⟨rfl, rfl⟩
  | some key =>
    have hsite := b.site.quiet_subscribe_recorder key name failsOn
    have hdevices : (b.site.subscribe key (.recorder name failsOn)).site.devices.length =
        b.site.devices.length :=
      congrArg Prod.snd (b.site.size_subscribe key (.recorder name failsOn))
    cases hresult : (b.site.subscribe key (.recorder name failsOn)).result with
    | error panic =>
      rw [step_subscribe_of_error hkey hresult]
      exact turn_of_quiet rfl hsite hdevices
        (fun k => Site.publications_subscribe_recorder b.site key name failsOn)
        (fun ch => Site.offers_subscribe_recorder b.site key name failsOn) fun _ => ⟨rfl, rfl⟩
    | ok id =>
      obtain ⟨b₁, hb₁⟩ : ∃ b₁, b₁ = { b with
          site := (b.site.subscribe key (.recorder name failsOn)).site
          subscriptions := b.subscriptions.put name { remote := key, observer := id } } :=
        ⟨_, rfl⟩
      have hsite₁ : b.site.Quiet b₁.site := by rwa [hb₁]
      rw [step_subscribe_of_ok hkey hresult hb₁]
      apply turn_of_quiet
      · exact (channels_dropSubscription? b₁ _).trans (by rw [hb₁])
      · exact hsite₁.trans (quiet_dropSubscription? b₁ _)
      · have hdevices₁ : b₁.site.devices.length = b.site.devices.length := by rw [hb₁, hdevices]
        exact (congrArg Prod.snd (size_dropSubscription? b₁ _)).trans hdevices₁
      · intro k
        simp only [Trace.publications_append, Site.publications_subscribe_recorder,
          publications_dropSubscription?, List.append_nil]
      · intro ch
        simp only [Trace.offers_append, Site.offers_subscribe_recorder,
          offers_dropSubscription?, List.append_nil]
      · exact fun _ => ⟨rfl, rfl⟩

theorem turn_newChannel (b : Bench) (name : Text) (buffer : Nat) :
    Turn b (.newChannel name buffer) (b.step (.newChannel name buffer)).1
      (b.step (.newChannel name buffer)).2 := by
  by_cases hlimit : Channel.bufferLimit ≤ buffer
  · simp only [step, Site.addChannel, hlimit, if_true]
    exact turn_of_idle fun _ => ⟨rfl, rfl⟩
  · have hnew := Turn.newChannel (b := b) name buffer
    cases hold : b.channels.get? name with
    | none =>
      simp only [step, Site.addChannel, hlimit, if_false, hold]
      rwa [hold] at hnew
    | some ends =>
      simp only [step, Site.addChannel, hlimit, if_false, hold]
      rwa [hold] at hnew

/-- A step is a turn. -/
theorem Sound.turn_step (h : b.Sound) (hw : b.Wired) (a : Action) :
    Turn b a (b.step a).1 (b.step a).2 := by
  cases a with
  | newRemote handle name =>
    exact turn_of_quiet rfl (Site.quiet_addRemote _ _) rfl (fun _ => rfl) (fun _ => rfl)
      fun _ => ⟨rfl, rfl⟩
  | cloneRemote handle source =>
    apply turn_withRemote fun _ => ⟨rfl, rfl⟩
    intro key _
    exact turn_of_quiet rfl (Site.Quiet.refl _) rfl (fun _ => rfl) (fun _ => rfl)
      fun _ => ⟨rfl, rfl⟩
  | dropRemote handle =>
    exact turn_of_quiet rfl (Site.Quiet.refl _) rfl (fun _ => rfl) (fun _ => rfl)
      fun _ => ⟨rfl, rfl⟩
  | newDevice name remote channels => exact turn_newDevice b name remote channels
  | dropDevice name =>
    apply turn_withDevice fun _ => ⟨rfl, rfl⟩
    intro key
    exact turn_of_quiet rfl (Site.quiet_dropDevice _ _)
      (congrArg Prod.snd (Site.size_dropDevice b.site key))
      (fun _ => Site.publications_dropDevice _ _) (fun _ => Site.offers_dropDevice _ _)
      fun _ => ⟨rfl, rfl⟩
  | start name =>
    apply turn_withDevice fun _ => ⟨rfl, rfl⟩
    intro key
    exact .told _ (fun _ => rfl) (fun _ _ _ => h.site.tells_start key)
      (Site.length_channels_start key) (congrArg Prod.snd (Site.size_start b.site key))
      fun _ => ⟨rfl, rfl⟩
  | setState remote state upset =>
    apply turn_withRemote fun _ => ⟨rfl, rfl⟩
    intro key _
    exact .told _ (fun _ => rfl) (fun _ _ _ => Site.tells_setState state upset key)
      (Site.length_channels_setState state upset key)
      (congrArg Prod.snd (Site.size_setState b.site key state upset)) fun _ => ⟨rfl, rfl⟩
  | askRemote remote query =>
    apply turn_withRemote fun _ => ⟨rfl, rfl⟩
    intro key _
    simp only [conclude, Site.site_inspect, Site.trace_inspect]
    exact turn_of_idle fun _ => ⟨rfl, rfl⟩
  | askDevice name query =>
    apply turn_withDevice fun _ => ⟨rfl, rfl⟩
    intro key
    cases b.site.device? key with
    | none => exact turn_of_idle fun _ => ⟨rfl, rfl⟩
    | some d => exact turn_of_idle fun _ => ⟨rfl, rfl⟩
  | subscribe name holder failsOn => exact turn_subscribe b name holder failsOn
  | unsubscribe name =>
    cases hs : b.subscriptions.get? name with
    | none =>
      simp only [Bench.step, hs]
      exact turn_of_idle fun _ => ⟨rfl, rfl⟩
    | some s =>
      simp only [Bench.step, hs]
      exact turn_of_quiet (channels_dropSubscription? b (some s))
        (quiet_dropSubscription? b (some s))
        (congrArg Prod.snd (size_dropSubscription? b (some s)))
        (fun _ => publications_dropSubscription? b (some s))
        (fun _ => offers_dropSubscription? b (some s)) fun _ => ⟨rfl, rfl⟩
  | newChannel name buffer => exact turn_newChannel b name buffer
  | dropSender name =>
    apply turn_withChannel fun _ _ => ⟨rfl, rfl⟩
    intro ends hends
    have hheld := end?_of_get? hends
    have hkept : false = true → ends.receiver = true := fun h => absurd h Bool.false_ne_true
    refine .givesUp _ { ends with receiver := false } hheld hkept ?_ rfl (Or.inl rfl)
    intro other
    exact (end?_put (b := b) rfl).trans (by simp)
  | closeReceiver name =>
    apply turn_withChannel fun _ _ => ⟨rfl, rfl⟩
    intro ends hends
    exact .closes name (end?_of_get? hends)
  | dropReceiver name =>
    apply turn_withChannel fun _ _ => ⟨rfl, rfl⟩
    intro ends hends
    have hheld := end?_of_get? hends
    refine .givesUp _ { ends with sender := none } hheld id ?_ rfl (Or.inr rfl)
    intro other
    exact (end?_put (b := b) rfl).trans (by simp)
  | receive name limit =>
    apply turn_withChannel
    · intro hnone ch
      exact ⟨rfl, by simp [withdrawals, end?, hnone]⟩
    · intro ends hends
      have hheld := end?_of_get? hends
      have hlt := hw.made hheld
      have hc : b.site.channel? ends.channel = some b.site.channels[ends.channel] :=
        List.getElem?_eq_getElem hlt
      simp only [hc]
      cases limit with
      | none => exact .receives name none hheld hc
      | some n => exact .receives name (some n) hheld hc

end Bench

end DeviceTwin
