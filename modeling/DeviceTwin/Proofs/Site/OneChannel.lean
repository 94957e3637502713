import DeviceTwin.Proofs.Site.Attempts

/-!
# What one channel gets

What the senders of a channel deliver depends on that channel and on who is told what, but not on
any other channel: `Channel.offerAll` hands an event to the senders of one channel alone, and a
device that publishes to many channels does the same to each of them (`offer_to`).  Two sites that
differ in other channels only (`Site.AlikeAt`) therefore stay alike, whatever devices are told.
-/

namespace DeviceTwin

/-- Hands an event to senders of one channel, one after the other. -/
def Channel.offerAll (status : Status) : Channel → List Sender →
    Channel × List (Sender × Delivery)
  | c, [] => (c, [])
  | c, sender :: rest =>
    let others := offerAll status (c.offered sender.number status) rest
    (others.1, (sender, (c.send sender.number status).2) :: others.2)

section Offer

variable (key : DeviceKey) (status : Status) {channels : List Channel} {c : Channel}
  {ch : ChannelKey}

theorem attemptsTo_offered (key : DeviceKey) (sender : Sender) (delivery : Channel.Delivery)
    (t : Trace) (ch : ChannelKey) :
    Trace.attemptsTo (.offered key sender delivery ::
      ((if delivery = .full then [.logged .eventDropped] else []) ++ t)) ch =
        (if sender.channel = ch then [{ device := key, sender, delivery }] else []) ++
          t.attemptsTo ch := by
  by_cases hch : sender.channel = ch <;> by_cases hfull : delivery = .full <;>
    simp [Trace.attemptsTo, hch, hfull]

/-- A channel gets an event from its own senders, in their order, whatever the others are. -/
theorem offer_to (senders : List Sender) (hc : channels[ch]? = some c) :
    (offer key status channels senders).1[ch]? =
        some (c.offerAll status (senders.filter (·.channel = ch))).1 ∧
      (offer key status channels senders).2.1.filter (·.channel = ch) =
        ((c.offerAll status (senders.filter (·.channel = ch))).2.filter (·.2 ≠ .closed)).map
          (·.1) ∧
      (offer key status channels senders).2.2.attemptsTo ch =
        (c.offerAll status (senders.filter (·.channel = ch))).2.map fun x =>
          { device := key, sender := x.1, delivery := x.2 } := by
  induction senders generalizing channels c with
  | nil => exact ⟨hc, rfl, rfl⟩
  | cons sender rest ih =>
    by_cases heq : sender.channel = ch
    · subst heq
      have hlt := (List.getElem?_eq_some_iff.1 hc).1
      have hfirst : (sender :: rest).filter (·.channel = sender.channel) =
          sender :: rest.filter (·.channel = sender.channel) :=
        List.filter_cons_of_pos (by simp)
      obtain ⟨hchannel, hkept, hattempts⟩ :=
        ih (List.getElem?_set_self (a := c.offered sender.number status) hlt)
      rw [offer_cons hc, hfirst]
      refine ⟨hchannel, ?_, ?_⟩
      · rw [List.filter_append, hkept]
        by_cases hclosed : (c.send sender.number status).2 = .closed <;>
          simp [Channel.offerAll, hclosed]
      · rw [attemptsTo_offered, if_pos rfl, hattempts]
        rfl
    · -- The sender leads elsewhere, and what it does there leaves the channel alone.
      have hrest : (sender :: rest).filter (·.channel = ch) = rest.filter (·.channel = ch) :=
        List.filter_cons_of_neg (by simpa using heq)
      rw [hrest]
      cases hother : channels[sender.channel]? with
      | none =>
        rw [offer_cons_of_none hother]
        exact ih hc
      | some other =>
        have hkeep : (channels.set sender.channel (other.offered sender.number status))[ch]? =
            some c := (List.getElem?_set_ne heq).trans hc
        obtain ⟨hchannel, hkept, hattempts⟩ := ih hkeep
        rw [offer_cons hother]
        refine ⟨hchannel, ?_, ?_⟩
        · rw [List.filter_append, hkept]
          by_cases hclosed : (other.send sender.number status).2 = .closed <;>
            simp [hclosed, heq]
        · rw [attemptsTo_offered, if_neg heq, List.nil_append, hattempts]

end Offer

/-! ## Sites that differ in other channels -/

/-- A device with its senders of one channel only. -/
def Device.toward (ch : ChannelKey) (d : Device) : Device := { d with senders := d.sendersTo ch }

theorem Device.toward_eq_iff {ch : ChannelKey} {d d' : Device} : d'.toward ch = d.toward ch ↔
    d'.remote = d.remote ∧ d'.started = d.started ∧ d'.status = d.status ∧ d'.model = d.model ∧
      d'.sendersTo ch = d.sendersTo ch ∧ d'.subscription = d.subscription := by
  simp [toward]

namespace Site

/-- Two sites agree but for channels other than `ch`, and for senders of those. -/
structure AlikeAt (ch : ChannelKey) (s s' : Site) : Prop where
  remotes : s'.remotes = s.remotes
  devices : ∀ k, (s'.device? k).map (Device.toward ch) = (s.device? k).map (Device.toward ch)
  channel : ∃ c, s.channel? ch = some c ∧ s'.channel? ch = some c

variable {ch : ChannelKey} {s s' : Site} {k : DeviceKey} {d d' : Device}

namespace AlikeAt

theorem remote? (h : AlikeAt ch s s') (key : RemoteKey) : s'.remote? key = s.remote? key := by
  simp only [Site.remote?, h.remotes]

theorem exists_device? (h : AlikeAt ch s s') (hd : s.device? k = some d) :
    ∃ d', s'.device? k = some d' ∧ d'.toward ch = d.toward ch := by
  have hk := h.devices k
  rw [hd, Option.map_some, Option.map_eq_some_iff] at hk
  exact hk

theorem device?_eq_none (h : AlikeAt ch s s') (hd : s.device? k = none) : s'.device? k = none := by
  have hk := h.devices k
  rwa [hd, Option.map_none, Option.map_eq_none_iff] at hk

theorem modifyRemote (h : AlikeAt ch s s') (key : RemoteKey) (f : Remote → Remote) :
    AlikeAt ch (s.modifyRemote key f) (s'.modifyRemote key f) where
  remotes := by simp only [Site.modifyRemote, h.remotes]
  devices := h.devices
  channel := h.channel

theorem modifyDevice (h : AlikeAt ch s s') (key : DeviceKey) {f : Device → Device}
    (hf : ∀ d d' : Device, d'.toward ch = d.toward ch → (f d').toward ch = (f d).toward ch) :
    AlikeAt ch (s.modifyDevice key f) (s'.modifyDevice key f) where
  remotes := h.remotes
  devices := by
    intro k
    rw [device?_modifyDevice, device?_modifyDevice]
    split
    · cases hd : s.device? k with
      | none => rw [h.device?_eq_none hd]
      | some d =>
        obtain ⟨d', hd', htoward⟩ := h.exists_device? hd
        simp [hd', hf d d' htoward]
    · exact h.devices k
  channel := h.channel

theorem withDevice (h : AlikeAt ch s s') {key : DeviceKey} {x x' : Device}
    (hd : s.device? key = some d) (hd' : s'.device? key = some d')
    {channels channels' : List Channel} {c : Channel}
    (hc : channels[ch]? = some c) (hc' : channels'[ch]? = some c)
    (hx : x'.toward ch = x.toward ch) :
    AlikeAt ch (s.withDevice channels key x) (s'.withDevice channels' key x') where
  remotes := h.remotes
  devices := by
    intro k
    rw [device?_withDevice hd, device?_withDevice hd']
    split
    · simp [hx]
    · exact h.devices k
  channel := ⟨c, hc, hc'⟩

/-- Bringing a device in line does the same to one channel, whatever the other channels are. -/
theorem follow (h : AlikeAt ch s s') {key : DeviceKey} (hd : s.device? key = some d)
    (hd' : s'.device? key = some d') (htoward : d'.toward ch = d.toward ch) (state : Connection) :
    AlikeAt ch
        (s.withDevice (d.follow key s.channels state).1 key (d.follow key s.channels state).2.1)
        (s'.withDevice (d'.follow key s'.channels state).1 key
          (d'.follow key s'.channels state).2.1) ∧
      (d'.follow key s'.channels state).2.2.attemptsTo ch =
        (d.follow key s.channels state).2.2.attemptsTo ch := by
  obtain ⟨c, hc, hc'⟩ := h.channel
  obtain ⟨hremote, hstarted, hstatus, hmodel, hsenders, hsubscription⟩ :=
    Device.toward_eq_iff.1 htoward
  by_cases hshown : d.status = .ofConnection state
  · rw [Device.follow_of_shown hshown, Device.follow_of_shown (hstatus.trans hshown), hmodel]
    exact ⟨h.withDevice hd hd' hc hc' (Device.toward_eq_iff.2
      ⟨hremote, hstarted, hstatus, rfl, hsenders, hsubscription⟩), by simp [Trace.attemptsTo]⟩
  · have hnew : d'.status ≠ .ofConnection state := hstatus ▸ hshown
    obtain ⟨hchannel, hkept, hattempts⟩ :=
      offer_to key (.ofConnection state) d.senders hc
    obtain ⟨hchannel', hkept', hattempts'⟩ :=
      offer_to key (.ofConnection state) d'.senders hc'
    rw [show d'.senders.filter (·.channel = ch) = d.senders.filter (·.channel = ch) from hsenders]
      at hchannel' hkept' hattempts'
    rw [Device.follow_of_new hshown, Device.follow_of_new hnew, hmodel]
    refine ⟨h.withDevice hd hd' hchannel hchannel' (Device.toward_eq_iff.2
      ⟨hremote, hstarted, rfl, rfl, hkept'.trans hkept.symm, hsubscription⟩), ?_⟩
    have hall : ∀ (records : List Log.Record) (record : Log.Record) (status : Status) (t : Trace),
        Trace.attemptsTo (records.map .logged ++ .logged record :: .published key status :: t) ch =
          t.attemptsTo ch := by
      intro records record status t
      simp [Trace.attemptsTo]
    rw [hall, hall, hattempts, hattempts']

theorem call (h : AlikeAt ch s s') (remote : RemoteKey) (id : ObserverId) (observer : Observer)
    (state : Connection) (upset : Bool) :
    AlikeAt ch (s.call remote id observer state upset).site
        (s'.call remote id observer state upset).site ∧
      (s'.call remote id observer state upset).trace.attemptsTo ch =
        (s.call remote id observer state upset).trace.attemptsTo ch := by
  cases observer with
  | recorder => exact ⟨h, rfl⟩
  | device key =>
    cases hd : s.device? key with
    | none =>
      have hd' := h.device?_eq_none hd
      simp only [Site.call, hd, hd']
      exact ⟨h, trivial⟩
    | some d =>
      obtain ⟨d', hd', htoward⟩ := h.exists_device? hd
      rw [call_device _ _ _ hd, call_device _ _ _ hd']
      exact h.follow hd hd' htoward state

theorem callAll (h : AlikeAt ch s s') (remote : RemoteKey) (state : Connection)
    (upset : List ObserverId) (observers : List (ObserverId × Observer)) :
    AlikeAt ch (s.callAll remote state upset observers).site
        (s'.callAll remote state upset observers).site ∧
      (s'.callAll remote state upset observers).trace.attemptsTo ch =
        (s.callAll remote state upset observers).trace.attemptsTo ch := by
  induction observers generalizing s s' with
  | nil => exact ⟨h, rfl⟩
  | cons e rest ih =>
    obtain ⟨hfirst, hattempts⟩ := h.call remote e.1 e.2 state (decide (e.1 ∈ upset))
    obtain ⟨hothers, hattempts'⟩ := ih hfirst
    simp only [Site.callAll, failed_call]
    split
    · exact ⟨hfirst, hattempts⟩
    · refine ⟨hothers, ?_⟩
      rw [Trace.attemptsTo_append, Trace.attemptsTo_append, hattempts, hattempts']

theorem setState (h : AlikeAt ch s s') (key : RemoteKey) (state : Connection)
    (upset : List ObserverId) :
    AlikeAt ch (s.setState key state upset).site (s'.setState key state upset).site ∧
      (s'.setState key state upset).trace.attemptsTo ch =
        (s.setState key state upset).trace.attemptsTo ch := by
  have hremote := h.remote? key
  cases hr : s.remote? key with
  | none =>
    rw [setState_of_dangling hr, setState_of_dangling (hremote.trans hr)]
    exact ⟨h, rfl⟩
  | some r =>
    by_cases hp : r.poisoned = true
    · rw [setState_of_poisoned hr hp, setState_of_poisoned (hremote.trans hr) hp]
      exact ⟨h, rfl⟩
    · have hp : r.poisoned = false := by simpa using hp
      by_cases hs : r.state = state
      · rw [setState_of_eq hr hp hs, setState_of_eq (hremote.trans hr) hp hs]
        exact ⟨h, rfl⟩
      · obtain ⟨hcalls, hattempts⟩ :=
          (h.modifyRemote key ({ · with state })).callAll key state upset r.observers
        rw [trace_setState state upset hr hp hs,
          trace_setState state upset (hremote.trans hr) hp hs]
        refine ⟨?_, hattempts⟩
        simp only [Site.setState, hr, hremote, hp, hs, Bool.false_eq_true, if_false, failed_callAll]
        split
        · exact hcalls.modifyRemote key _
        · exact hcalls

theorem start (h : AlikeAt ch s s') (hsound : s.Sound) (hsound' : s'.Sound) (k : DeviceKey) :
    AlikeAt ch (s.start k).site (s'.start k).site ∧
      (s'.start k).trace.attemptsTo ch = (s.start k).trace.attemptsTo ch := by
  cases hd : s.device? k with
  | none =>
    rw [start_of_dangling hd, start_of_dangling (h.device?_eq_none hd)]
    exact ⟨h, rfl⟩
  | some d =>
    obtain ⟨d', hd', htoward⟩ := h.exists_device? hd
    obtain ⟨hremote, hstarted, -⟩ := Device.toward_eq_iff.1 htoward
    obtain ⟨r, hr, -⟩ := hsound.attached hd
    have hr' : s'.remote? d'.remote = some r := by rw [hremote, h.remote?, hr]
    by_cases hp : r.poisoned = true
    · rw [start_of_poisoned hd hr hp, start_of_poisoned hd' hr' hp]
      exact ⟨h, rfl⟩
    · have hp : r.poisoned = false := by simpa using hp
      by_cases hs : d.started = true
      · rw [start_of_started hd hr hp hs, start_of_started hd' hr' hp (hstarted.trans hs)]
        exact ⟨h, rfl⟩
      · have hs : d.started = false := by simpa using hs
        have hs' : d'.started = false := hstarted.trans hs
        have hmarked : AlikeAt ch (s.modifyDevice k ({ · with started := true }))
            (s'.modifyDevice k ({ · with started := true })) :=
          h.modifyDevice k fun _ _ => by simp +contextual [Device.toward, Device.sendersTo]
        obtain ⟨hcall, hattempts⟩ :=
          hmarked.call d.remote r.nextObserver (.device k) r.state false
        rw [start_of_unstarted hd hr hp hs (hsound.subscription_eq_none hd hs),
          start_of_unstarted hd' hr' hp hs' (hsound'.subscription_eq_none hd' hs'), hremote]
        have hcalled : s'.startCall k d' r = (s'.modifyDevice k ({ · with started := true })).call
            d.remote r.nextObserver (.device k) r.state false := by rw [startCall, hremote]
        rw [hcalled]
        refine ⟨(hcall.modifyRemote d.remote _).modifyDevice k fun _ _ => ?_, ?_⟩
        · simp +contextual [Device.toward, Device.sendersTo]
        · have hlogged : ∀ (first last : Log.Record) (t : Trace),
              Trace.attemptsTo (.logged first :: (t ++ [.logged last])) ch = t.attemptsTo ch := by
            intro first last t
            simp [Trace.attemptsTo]
          rw [hlogged, hlogged]
          exact hattempts

end AlikeAt

end Site

end DeviceTwin
