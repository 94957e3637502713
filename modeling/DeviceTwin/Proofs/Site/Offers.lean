import DeviceTwin.Proofs.Channel.Queue
import DeviceTwin.Proofs.Site.Publications

/-!
# Devices and the channels they publish to

What a device publishes goes to its senders one after the other.  This module follows one channel of
which a single device holds a single sender (`Site.Sole`): whatever devices are told, the channel
gets the status changes of that device and nothing else, each once and in order (`Site.Tells`).
-/

namespace DeviceTwin

/-- What became of the events that were offered to a channel in a trace. -/
def Trace.offers (t : Trace) (ch : ChannelKey) : List Channel.Delivery :=
  t.filterMap fun
    | .offered _ sender delivery => if sender.channel = ch then some delivery else none
    | _ => none

namespace Trace

variable (ch : ChannelKey)

@[simp] theorem offers_nil : offers [] ch = [] := rfl

@[simp] theorem offers_append (t u : Trace) : offers (t ++ u) ch = t.offers ch ++ u.offers ch :=
  List.filterMap_append

@[simp] theorem offers_cons_called (remote : RemoteKey) (id : ObserverId) (observer : Observer)
    (state : Connection) (t : Trace) :
    offers (.called remote id observer state :: t) ch = t.offers ch := rfl

@[simp] theorem offers_cons_logged (record : Log.Record) (t : Trace) :
    offers (.logged record :: t) ch = t.offers ch := rfl

@[simp] theorem offers_cons_published (key : DeviceKey) (status : Status) (t : Trace) :
    offers (.published key status :: t) ch = t.offers ch := rfl

theorem offers_cons_offered (key : DeviceKey) (sender : Sender) (delivery : Channel.Delivery)
    (t : Trace) : offers (.offered key sender delivery :: t) ch =
      (if sender.channel = ch then [delivery] else []) ++ t.offers ch := by
  by_cases h : sender.channel = ch
  · simp [offers, h]
  · simp [offers, h]

@[simp] theorem offers_map_logged (records : List Log.Record) :
    offers (records.map .logged) ch = [] := by
  induction records with
  | nil => rfl
  | cons record records ih => exact ih

end Trace

/-- The senders of one channel among those of a device. -/
def Device.sendersTo (d : Device) (ch : ChannelKey) : List Sender :=
  d.senders.filter (·.channel = ch)

/-! ## Offering an event to senders -/

section Offer

variable {key : DeviceKey} {status : Status} {channels : List Channel} {sender : Sender}
  {senders rest : List Sender} {c : Channel} {ch : ChannelKey} {m : Nat}

theorem offer_cons_of_none (hnone : channels[sender.channel]? = none) :
    offer key status channels (sender :: rest) = offer key status channels rest := by
  rw [offer, hnone]

/-- An event goes to the first sender, and then to the others. -/
theorem offer_cons (hc : channels[sender.channel]? = some c) :
    offer key status channels (sender :: rest) =
      let others := offer key status
        (channels.set sender.channel (c.offered sender.number status)) rest
      (others.1,
        (if (c.send sender.number status).2 = .closed then [] else [sender]) ++ others.2.1,
        .offered key sender (c.send sender.number status).2 ::
          ((if (c.send sender.number status).2 = .full then [.logged .eventDropped] else []) ++
            others.2.2)) := by
  simp only [offer, hc, Channel.offered]
  obtain ⟨c', delivery⟩ := c.send sender.number status
  cases delivery <;> rfl

@[simp] theorem length_channels_offer (key : DeviceKey) (status : Status)
    (channels : List Channel) (senders : List Sender) :
    (offer key status channels senders).1.length = channels.length := by
  induction senders generalizing channels with
  | nil => rfl
  | cons sender rest ih =>
    cases hc : channels[sender.channel]? with
    | none => rw [offer_cons_of_none hc, ih]
    | some c => simp [offer_cons hc, ih]

variable (key status channels)

theorem kept_offer_sublist (senders : List Sender) :
    (offer key status channels senders).2.1.Sublist senders := by
  induction senders generalizing channels with
  | nil => exact List.Sublist.refl _
  | cons sender rest ih =>
    cases hc : channels[sender.channel]? with
    | none =>
      rw [offer_cons_of_none hc]
      exact (ih _).cons _
    | some c =>
      rw [offer_cons hc]
      by_cases hclosed : (c.send sender.number status).2 = .closed
      · simpa [hclosed] using (ih _).cons _
      · simpa [hclosed] using (ih _).cons_cons sender

theorem filter_kept_eq_nil (h : senders.filter (·.channel = ch) = []) :
    (offer key status channels senders).2.1.filter (·.channel = ch) = [] := by
  have hsublist := (kept_offer_sublist key status channels senders).filter
    (·.channel = ch)
  rw [h] at hsublist
  exact List.sublist_nil.1 hsublist

/-- A channel to which none of the senders leads is left alone. -/
theorem offer_of_none (h : senders.filter (·.channel = ch) = []) :
    (offer key status channels senders).1[ch]? = channels[ch]? ∧
      (offer key status channels senders).2.2.offers ch = [] := by
  induction senders generalizing channels with
  | nil => exact ⟨rfl, rfl⟩
  | cons sender rest ih =>
    have hne : sender.channel ≠ ch := by
      intro heq
      simp [heq] at h
    have hrest : rest.filter (·.channel = ch) = [] := by simpa [hne] using h
    cases hc : channels[sender.channel]? with
    | none =>
      rw [offer_cons_of_none hc]
      exact ih channels hrest
    | some c =>
      obtain ⟨hchannel, hoffers⟩ :=
        ih (channels.set sender.channel (c.offered sender.number status)) hrest
      rw [offer_cons hc]
      constructor
      · rw [hchannel, List.getElem?_set_ne hne]
      · simp only [Trace.offers_cons_offered, if_neg hne, Trace.offers_append, hoffers]
        split <;> rfl

/-- A channel to which one of the senders leads gets the event once. -/
theorem offer_of_sole (h : senders.filter (·.channel = ch) = [⟨ch, m⟩])
    (hc : channels[ch]? = some c) :
    (offer key status channels senders).1[ch]? = some (c.offered m status) ∧
      (offer key status channels senders).2.2.offers ch = [(c.send m status).2] ∧
      (offer key status channels senders).2.1.filter (·.channel = ch) =
        if (c.send m status).2 = .closed then [] else [⟨ch, m⟩] := by
  induction senders generalizing channels with
  | nil => simp at h
  | cons sender rest ih =>
    by_cases heq : sender.channel = ch
    · have hfirst : sender :: rest.filter (·.channel = ch) = [⟨ch, m⟩] := by
        simpa [heq] using h
      obtain ⟨rfl, hrest⟩ := List.cons.inj hfirst
      obtain ⟨hchannel, hoffers⟩ :=
        offer_of_none key status (channels.set ch (c.offered m status)) hrest
      have hkept := filter_kept_eq_nil key status (channels.set ch (c.offered m status)) hrest
      have hlt : ch < channels.length := (List.getElem?_eq_some_iff.1 hc).1
      rw [offer_cons hc]
      refine ⟨?_, ?_, ?_⟩
      · rw [hchannel, List.getElem?_set_self hlt]
      · simp only [Trace.offers_cons_offered, if_true, Trace.offers_append, hoffers]
        split <;> rfl
      · rw [List.filter_append, hkept]
        split <;> simp
    · have hrest : rest.filter (·.channel = ch) = [⟨ch, m⟩] := by simpa [heq] using h
      cases hother : channels[sender.channel]? with
      | none =>
        rw [offer_cons_of_none hother]
        exact ih channels hrest hc
      | some other =>
        obtain ⟨hchannel, hoffers, hkept⟩ :=
          ih (channels.set sender.channel (other.offered sender.number status)) hrest
            (by rw [List.getElem?_set_ne heq, hc])
        rw [offer_cons hother]
        refine ⟨hchannel, ?_, ?_⟩
        · simp only [Trace.offers_cons_offered, if_neg heq, Trace.offers_append, hoffers]
          split <;> rfl
        · rw [List.filter_append, hkept]
          split <;> simp [heq]

end Offer

/-! ## Bringing one device in line -/

section Follow

variable {key : DeviceKey} {channels : List Channel} {d : Device} {state : Connection}

theorem Device.follow_of_shown (h : d.status = .ofConnection state) :
    d.follow key channels state =
      (channels, { d with model := (d.model.follow state).1 },
        (d.model.follow state).2.map .logged) := by
  simp [follow, h]

theorem Device.follow_of_new (h : d.status ≠ .ofConnection state) :
    d.follow key channels state =
      let others := offer key (.ofConnection state) channels d.senders
      (others.1,
        { d with
          model := (d.model.follow state).1
          status := .ofConnection state
          senders := others.2.1 },
        (d.model.follow state).2.map .logged ++
          .logged (.statusChanged d.status (.ofConnection state)) ::
            .published key (.ofConnection state) :: others.2.2) := by
  simp [follow, h]

@[simp] theorem Device.length_channels_follow (key : DeviceKey) (channels : List Channel)
    (d : Device) (state : Connection) :
    (d.follow key channels state).1.length = channels.length := by
  by_cases h : d.status = .ofConnection state
  · rw [follow_of_shown h]
  · rw [follow_of_new h]
    exact length_channels_offer _ _ _ _

end Follow

namespace Site

variable {s s' s'' : Site} {ch : ChannelKey} {k : DeviceKey} {m : Nat} {t u : Trace}

/-! ## A channel with one sender -/

/-- Only one device has a sender of a channel, and only one.  It loses it when the channel has been
closed. -/
structure Sole (s : Site) (ch : ChannelKey) (k : DeviceKey) (m : Nat) : Prop where
  paced : ∀ {c}, s.channel? ch = some c → c.Paced m
  others : ∀ {other d}, s.device? other = some d → other ≠ k → d.sendersTo ch = []
  holder : ∀ {d}, s.device? k = some d → ∃ c, s.channel? ch = some c ∧
    (d.sendersTo ch = [⟨ch, m⟩] ∨ c.accepting = false ∧ d.sendersTo ch = [])

/-- A channel gets the events that its device publishes. -/
def Tells (ch : ChannelKey) (k : DeviceKey) (m : Nat) (s : Site) (t : Trace) (s' : Site) : Prop :=
  s.Sole ch k m → s'.Sole ch k m ∧
    Channel.Serves True (s.channel? ch) ((t.publications k).map .put)
      ((t.offers ch).map .offered) (s'.channel? ch)

theorem Tells.trans (h : Tells ch k m s t s') (h' : Tells ch k m s' u s'') :
    Tells ch k m s (t ++ u) s'' := by
  intro hsole
  obtain ⟨hsole', hserves⟩ := h hsole
  obtain ⟨hsole'', hserves'⟩ := h' hsole'
  refine ⟨hsole'', ?_⟩
  rw [Trace.publications_append, Trace.offers_append, List.map_append, List.map_append]
  exact (hserves.trans hserves').mono fun _ _ => ⟨trivial, trivial⟩

/-- At most senders come and go, and devices keep theirs. -/
structure Quiet (s s' : Site) : Prop where
  channels : s'.channels.map Channel.bare = s.channels.map Channel.bare
  senders : ∀ {k d'}, s'.device? k = some d' → ∃ d, s.device? k = some d ∧ d'.senders = d.senders

theorem Quiet.refl (s : Site) : s.Quiet s := ⟨rfl, fun hd => ⟨_, hd, rfl⟩⟩

theorem Quiet.trans (h : s.Quiet s') (h' : s'.Quiet s'') : s.Quiet s'' where
  channels := h'.channels.trans h.channels
  senders := by
    intro k d'' hd''
    obtain ⟨d', hd', heq'⟩ := h'.senders hd''
    obtain ⟨d, hd, heq⟩ := h.senders hd'
    exact ⟨d, hd, heq'.trans heq⟩

theorem Quiet.map_channel? (h : s.Quiet s') (ch : ChannelKey) :
    (s'.channel? ch).map Channel.bare = (s.channel? ch).map Channel.bare := by
  simp only [channel?, ← List.getElem?_map, h.channels]

theorem Quiet.sole (h : s.Quiet s') (hsole : s.Sole ch k m) : s'.Sole ch k m where
  paced := by
    intro c' hc'
    have hbare := h.map_channel? ch
    rw [hc', Option.map_some] at hbare
    obtain ⟨c, hc, heq⟩ := Option.map_eq_some_iff.1 hbare.symm
    exact (hsole.paced hc).of_bare heq.symm
  others := by
    intro other d' hd' hne
    obtain ⟨d, hd, hsenders⟩ := h.senders hd'
    rw [Device.sendersTo, hsenders]
    exact hsole.others hd hne
  holder := by
    intro d' hd'
    obtain ⟨d, hd, hsenders⟩ := h.senders hd'
    obtain ⟨c, hc, hcases⟩ := hsole.holder hd
    have hbare := h.map_channel? ch
    rw [hc, Option.map_some] at hbare
    obtain ⟨c', hc', heq⟩ := Option.map_eq_some_iff.1 hbare
    obtain ⟨-, -, haccepting, -⟩ := Channel.eq_of_bare heq
    refine ⟨c', hc', ?_⟩
    rw [Device.sendersTo, hsenders, haccepting]
    exact hcases

theorem Quiet.tells (h : s.Quiet s') (hpublications : t.publications k = [])
    (hoffers : t.offers ch = []) : Tells ch k m s t s' := by
  intro hsole
  rw [hpublications, hoffers]
  exact ⟨h.sole hsole, Channel.serves_of_bare (h.map_channel? ch)⟩

theorem quiet_modifyRemote (s : Site) (key : RemoteKey) (f : Remote → Remote) :
    s.Quiet (s.modifyRemote key f) :=
  ⟨rfl, fun hd => ⟨_, hd, rfl⟩⟩

theorem quiet_modifyDevice (s : Site) (key : DeviceKey) {f : Device → Device}
    (hf : ∀ d, (f d).senders = d.senders) : s.Quiet (s.modifyDevice key f) where
  channels := rfl
  senders := by
    intro k d' hd'
    rw [device?_modifyDevice] at hd'
    split at hd'
    · obtain ⟨d, hd, rfl⟩ := Option.map_eq_some_iff.1 hd'
      exact ⟨d, hd, hf d⟩
    · exact ⟨d', hd', rfl⟩

/-! ## Calls -/

section Call

variable (remote : RemoteKey) (id : ObserverId) (observer : Observer) (state : Connection)

@[simp] theorem length_channels_call (upset : Bool) :
    (s.call remote id observer state upset).site.channels.length = s.channels.length := by
  unfold call
  split
  · rfl
  · split
    · rfl
    · exact Device.length_channels_follow _ _ _ _

/-- The site after a device has been told something. -/
def withDevice (s : Site) (channels : List Channel) (key : DeviceKey) (d : Device) : Site :=
  { s with channels, devices := s.devices.set key (some d) }

variable {key : DeviceKey} {d d' : Device} {channels : List Channel} {c' : Channel}

theorem device?_withDevice (hd : s.device? key = some d) (other : DeviceKey) :
    (s.withDevice channels key d').device? other =
      if key = other then some d' else s.device? other := by
  have hlt : key < s.devices.length := lt_length_of_device? hd
  by_cases h : key = other
  · subst h
    simp [withDevice, device?, hlt]
  · simp [withDevice, device?, h]

theorem call_device (hd : s.device? key = some d) (upset : Bool) :
    s.call remote id (.device key) state upset =
      { site := s.withDevice (d.follow key s.channels state).1 key
          (d.follow key s.channels state).2.1
        trace := .called remote id (.device key) state :: (d.follow key s.channels state).2.2
        failed := false } := by
  simp [call, hd, withDevice]

theorem quiet_withDevice (hd : s.device? key = some d) (hsenders : d'.senders = d.senders) :
    s.Quiet (s.withDevice s.channels key d') where
  channels := rfl
  senders := by
    intro other x hx
    rw [device?_withDevice hd] at hx
    split at hx
    · next heq =>
      subst heq
      obtain rfl := Option.some.inj hx
      exact ⟨d, hd, hsenders⟩
    · exact ⟨x, hx, rfl⟩

theorem Sole.withDevice_of_ne (h : s.Sole ch k m) (hd : s.device? key = some d) (hne : key ≠ k)
    (hsenders : d'.sendersTo ch = []) (hchannel : channels[ch]? = s.channels[ch]?) :
    (s.withDevice channels key d').Sole ch k m where
  paced := by
    intro c hc
    exact h.paced (hchannel.symm.trans hc)
  others := by
    intro other x hx hother
    rw [device?_withDevice hd] at hx
    split at hx
    · obtain rfl := Option.some.inj hx
      exact hsenders
    · exact h.others hx hother
  holder := by
    intro x hx
    rw [device?_withDevice hd, if_neg hne] at hx
    obtain ⟨c, hc, hcases⟩ := h.holder hx
    exact ⟨c, hchannel.trans hc, hcases⟩

theorem Sole.withDevice_self (h : s.Sole ch k m) (hd : s.device? k = some d)
    (hc' : channels[ch]? = some c') (hpaced : c'.Paced m)
    (hsenders : d'.sendersTo ch = [⟨ch, m⟩] ∨ c'.accepting = false ∧ d'.sendersTo ch = []) :
    (s.withDevice channels k d').Sole ch k m where
  paced := by
    intro c hc
    obtain rfl := Option.some.inj (hc'.symm.trans hc)
    exact hpaced
  others := by
    intro other x hx hother
    rw [device?_withDevice hd, if_neg (Ne.symm hother)] at hx
    exact h.others hx hother
  holder := by
    intro x hx
    rw [device?_withDevice hd, if_pos rfl] at hx
    obtain rfl := Option.some.inj hx
    exact ⟨c', hc', hsenders⟩

/-- A status change of the device that holds the sender is offered to the channel. -/
theorem Sole.offer (h : s.Sole ch k m) (hd : s.device? k = some d) (status : Status) {d' : Device}
    (hd' : d'.senders = (offer k status s.channels d.senders).2.1) :
    (s.withDevice (offer k status s.channels d.senders).1 k d').Sole ch k m ∧
      Channel.Serves True (s.channel? ch) [.put status]
        (((offer k status s.channels d.senders).2.2.offers ch).map .offered)
        ((offer k status s.channels d.senders).1[ch]?) := by
  obtain ⟨c, hc, hholds | ⟨hclosed, hnone⟩⟩ := h.holder hd
  · obtain ⟨hchannel, hoffers, hkept⟩ :=
      offer_of_sole k status s.channels hholds hc
    have hpaced := h.paced hc
    rw [hoffers, hchannel, hc]
    refine ⟨h.withDevice_self hd hchannel (hpaced.offered status) ?_, hpaced.serves_offered status⟩
    rw [Device.sendersTo, hd', hkept]
    by_cases hclosed : (c.send m status).2 = .closed
    · exact Or.inr ⟨hpaced.accepting_of_closed hclosed, if_pos hclosed⟩
    · exact Or.inl (if_neg hclosed)
  · obtain ⟨hchannel, hoffers⟩ := offer_of_none k status s.channels hnone
    have hc' := hchannel.trans hc
    rw [hoffers, hc', hc]
    refine ⟨h.withDevice_self hd hc' (h.paced hc) (Or.inr ⟨hclosed, ?_⟩),
      Channel.serves_put_of_closed hclosed [status]⟩
    rw [Device.sendersTo, hd']
    exact filter_kept_eq_nil k status s.channels hnone

/-- What a device publishes when it is brought in line is handed to the channel. -/
theorem tells_follow (hd : s.device? key = some d) :
    Tells ch k m s (d.follow key s.channels state).2.2
      (s.withDevice (d.follow key s.channels state).1 key
        (d.follow key s.channels state).2.1) := by
  by_cases hshown : d.status = .ofConnection state
  · rw [Device.follow_of_shown hshown]
    have hquiet : s.Quiet
        (s.withDevice s.channels key { d with model := (d.model.follow state).1 }) :=
      quiet_withDevice hd rfl
    exact hquiet.tells (Trace.publications_map_logged _ _) (Trace.offers_map_logged _ _)
  · intro hsole
    have hpublications := Device.publications_follow key s.channels d state k
    have hoffers : (d.follow key s.channels state).2.2.offers ch =
        (DeviceTwin.offer key (.ofConnection state) s.channels d.senders).2.2.offers ch := by
      rw [Device.follow_of_new hshown]
      simp
    rw [hpublications, hoffers, Device.follow_of_new hshown]
    by_cases hk : key = k
    · subst hk
      rw [if_pos ⟨rfl, hshown⟩]
      exact hsole.offer hd (.ofConnection state) rfl
    · have hnone := hsole.others hd hk
      obtain ⟨hchannel, hoffers⟩ := offer_of_none key (.ofConnection state) s.channels hnone
      rw [if_neg fun h => hk h.1, hoffers]
      exact ⟨hsole.withDevice_of_ne hd hk (filter_kept_eq_nil _ _ _ hnone) hchannel,
        Channel.serves_of_bare (congrArg _ hchannel)⟩

/-- A call of a device hands what it publishes to the channel. -/
theorem tells_call (upset : Bool) : Tells ch k m s (s.call remote id observer state upset).trace
    (s.call remote id observer state upset).site := by
  cases observer with
  | recorder => exact (Quiet.refl s).tells rfl rfl
  | device key =>
    cases hd : s.device? key with
    | none =>
      simp only [call, hd]
      exact (Quiet.refl s).tells rfl rfl
    | some d =>
      rw [call_device _ _ _ hd]
      exact tells_follow state hd

end Call

variable (remote : RemoteKey) (state : Connection) (upset : List ObserverId)
  (observers : List (ObserverId × Observer))

@[simp] theorem length_channels_callAll :
    (s.callAll remote state upset observers).site.channels.length = s.channels.length := by
  induction observers generalizing s with
  | nil => rfl
  | cons e rest ih =>
    simp only [callAll]
    split
    · simp
    · simp [ih]

theorem tells_callAll : Tells ch k m s (s.callAll remote state upset observers).trace
    (s.callAll remote state upset observers).site := by
  induction observers generalizing s with
  | nil => exact (Quiet.refl s).tells rfl rfl
  | cons e rest ih =>
    simp only [callAll]
    split
    · exact tells_call _ _ _ _ _
    · exact (tells_call _ _ _ _ _).trans ih

/-! ## Operations -/

theorem Tells.logged (h : Tells ch k m s t s') (record : Log.Record) :
    Tells ch k m s (.logged record :: t) s' := h

theorem Tells.quiet (h : Tells ch k m s t s') (hquiet : s'.Quiet s'') : Tells ch k m s t s'' := by
  simpa using h.trans (hquiet.tells (t := []) rfl rfl)

theorem Quiet.tells_nil (h : s.Quiet s') : Tells ch k m s [] s' := h.tells rfl rfl

theorem tells_setState (key : RemoteKey) : Tells ch k m s (s.setState key state upset).trace
    (s.setState key state upset).site := by
  cases hr : s.remote? key with
  | none =>
    rw [setState_of_dangling hr]
    exact (Quiet.refl s).tells_nil
  | some r =>
    by_cases hp : r.poisoned = true
    · rw [setState_of_poisoned hr hp]
      exact (Quiet.refl s).tells_nil
    · have hp : r.poisoned = false := by simpa using hp
      by_cases hs : r.state = state
      · rw [setState_of_eq hr hp hs]
        exact (Quiet.refl s).tells_nil
      · have hcalls : Tells ch k m s
            ((s.modifyRemote key ({ · with state })).callAll key state upset r.observers).trace
            ((s.modifyRemote key ({ · with state })).callAll key state upset r.observers).site :=
          (quiet_modifyRemote s key _).tells_nil.trans (tells_callAll _ _ _ _)
        rw [trace_setState state upset hr hp hs]
        simp only [setState, hr, hp, hs, Bool.false_eq_true, if_false]
        split
        · exact hcalls.quiet (quiet_modifyRemote _ _ _)
        · exact hcalls

theorem length_channels_setState (key : RemoteKey) :
    (s.setState key state upset).site.channels.length = s.channels.length := by
  unfold setState
  split
  · rfl
  · split
    · rfl
    · split
      · rfl
      · dsimp only
        split <;> simp [modifyRemote]

theorem Sound.tells_start (h : s.Sound) (key : DeviceKey) :
    Tells ch k m s (s.start key).trace (s.start key).site := by
  cases hd : s.device? key with
  | none =>
    rw [start_of_dangling hd]
    exact (Quiet.refl s).tells_nil
  | some d =>
    obtain ⟨r, hr, -⟩ := h.attached hd
    by_cases hp : r.poisoned = true
    · rw [start_of_poisoned hd hr hp]
      exact (Quiet.refl s).tells_nil
    · have hp : r.poisoned = false := by simpa using hp
      by_cases hs : d.started = true
      · rw [start_of_started hd hr hp hs]
        exact (Quiet.refl s).tells_nil
      · have hs : d.started = false := by simpa using hs
        have hmarked : s.Quiet (s.modifyDevice key ({ · with started := true })) :=
          quiet_modifyDevice s key fun _ => rfl
        have hcall : Tells ch k m s (s.startCall key d r).trace (s.startCall key d r).site :=
          hmarked.tells_nil.trans (tells_call _ _ _ _ _)
        have hadded : Tells ch k m (s.startCall key d r).site
            [.logged (.observerGained r.name r.nextObserver)]
            ((s.startCall key d r).site.modifyRemote d.remote (·.gain (.device key))) :=
          (quiet_modifyRemote _ _ _).tells rfl rfl
        rw [start_of_unstarted hd hr hp hs (h.subscription_eq_none hd hs)]
        apply Tells.logged
        exact (hcall.trans hadded).quiet (quiet_modifyDevice _ _ fun _ => rfl)

theorem length_channels_subscribe (key : RemoteKey) (observer : Observer) :
    (s.subscribe key observer).site.channels.length = s.channels.length := by
  unfold subscribe
  split
  · rfl
  · split
    · rfl
    · dsimp only
      split <;> simp [modifyRemote]

theorem channels_unsubscribe (s : Site) (key : RemoteKey) (id : ObserverId) :
    (s.unsubscribe key id).1.channels = s.channels := by
  unfold unsubscribe
  split <;> rfl

theorem length_channels_start (key : DeviceKey) :
    (s.start key).site.channels.length = s.channels.length := by
  unfold start
  split
  · rfl
  · split
    · rfl
    · split
      · rfl
      · dsimp only
        split
        · rw [length_channels_subscribe]
          rfl
        · split
          · rw [channels_unsubscribe, length_channels_subscribe]
            rfl
          · exact (length_channels_subscribe _ _)

end Site

end DeviceTwin
