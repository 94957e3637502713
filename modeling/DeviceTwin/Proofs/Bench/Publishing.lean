import DeviceTwin.Proofs.Bench.Channels
import DeviceTwin.Proofs.Bench.Following

/-!
# Devices publish into bounded queues

A channel whose sender was given to one device, once, is a queue for one event more than its buffer
says.  `Bench.uses` lists what a run does with the channel: the status changes of the device, and
what is asked for at the receiver.  `Bench.replies` lists what comes of it.  The main statement,
`channel_is_bounded_queue`, compares the two for any run, and says what is left of that when the
receiver is closed or given up.

The device may come long after the channel, and until then nothing enters it.  The invariant
`Bench.Alone` therefore looks ahead: the sender is still to be given, or the device has it.
-/

namespace DeviceTwin

namespace Bench

/-! ## What a run does with a channel -/

/-- What is taken from a channel by an action. -/
def receipts (ch : ChannelKey) (b : Bench) (a : Action) (o : Outcome) : List Queue.Reply :=
  match a with
  | .receive name _ =>
    if (b.end? name).any (·.1 = ch) then
      match o.answer with
      | .received events _ => [.taken events]
      | _ => []
    else []
  | _ => []

/-- What an action does with a channel to which one device publishes. -/
def uses (ch : ChannelKey) (k : DeviceKey) (b : Bench) (a : Action) : List Queue.Use :=
  b.withdrawals ch a ++ (b.shift? a k).toList.map .put

/-- What comes of the uses of a channel by an action. -/
def replies (ch : ChannelKey) (b : Bench) (a : Action) : List Queue.Reply :=
  receipts ch b a (b.step a).2 ++ ((b.step a).2.trace.offers ch).map .offered

/-- What actions bring about one after the other. -/
def collect {α : Type} (f : Bench → Action → List α) (b : Bench) : List Action → List α
  | [] => []
  | a :: rest => f b a ++ collect f (b.step a).1 rest

/-- What is received from a channel in a run. -/
def received (ch : ChannelKey) (b : Bench) (actions : List Action) : List Status :=
  Queue.got (collect (replies ch) b actions)

/-- A channel behaves as a bounded queue for the events of a device, in a run that leads to its
present state. -/
structure BoundedQueue (ch : ChannelKey) (k : DeviceKey) (actions : List Action) (c : Channel) :
    Prop where
  bounded : c.waiting.length ≤ c.buffer + 1
  /-- As long as the receiver is open, nobody can tell the channel from a queue. -/
  queue : c.accepting = true → (c.waiting, collect (replies ch) {} actions) =
    Queue.serve (c.buffer + 1) [] (collect (uses ch k) {} actions)
  /-- What is received are status changes of the device, in their order, and so is what waits. -/
  ordered : (received ch {} actions ++ c.waiting).Sublist (shifts {} actions k)
  /-- Nothing is lost as long as there is room for all status changes since nothing waited. -/
  lossless : c.accepting = true → ∀ before between, actions = before ++ between →
    Channel.content ((run {} before).1.site.channel? ch) = [] →
      ((run {} before).1.shifts between k).length ≤ c.buffer + 1 →
        received ch (run {} before).1 between ++ c.waiting = (run {} before).1.shifts between k
  /-- Once the channel is closed no event enters, and those that wait are there to be received, as
  long as the receiver is held. -/
  closed : ∀ before between c₀, actions = before ++ between →
    (run {} before).1.site.channel? ch = some c₀ → c₀.accepting = false →
      c.accepting = false ∧ received ch (run {} before).1 between ++ c.waiting <+: c₀.waiting ∧
        ((run {} actions).1.Holds ch →
          received ch (run {} before).1 between ++ c.waiting = c₀.waiting)
  /-- Whoever receives gets the oldest events, and all of them if there is no limit. -/
  receive : ∀ name receiver limit, (run {} actions).1.end? name = some (ch, receiver) →
    ((run {} actions).1.step (.receive name limit)).2.answer =
        .received (c.waiting.take (limit.getD c.waiting.length))
          (if limit.any (· ≤ c.waiting.length) then .limit else c.ending) ∧
      Channel.content (((run {} actions).1.step (.receive name limit)).1.site.channel? ch) =
        c.waiting.drop (limit.getD c.waiting.length)

variable {b b' : Bench} {a : Action} {o : Outcome} {ch : ChannelKey} {k : DeviceKey} {m : Nat}

/-! ## Names -/

theorem Wired.of_names (hw : b.Wired) (hnames : ∀ name, b'.end? name = b.end? name)
    (hchannels : b'.site.channels.length = b.site.channels.length) : b'.Wired where
  made h := by
    rw [hnames] at h
    rw [hchannels]
    exact hw.made h
  injective h h' := by
    rw [hnames] at h h'
    exact hw.injective h h'

/-- Giving up or replacing what a name stands for leaves each channel with one name. -/
theorem Wired.of_put (hw : b.Wired) {name : Text} {key : ChannelKey} {receiver : Bool}
    (hnames : ∀ other, b'.end? other =
      if name = other then some (key, receiver) else b.end? other)
    (hkey : key < b'.site.channels.length)
    (hchannels : b.site.channels.length ≤ b'.site.channels.length)
    (honly : ∀ other receiver', b.end? other = some (key, receiver') → name = other) :
    b'.Wired where
  made h := by
    rw [hnames] at h
    split at h
    · obtain rfl := (Prod.mk.inj (Option.some.inj h)).1
      exact hkey
    · exact Nat.lt_of_lt_of_le (hw.made h) hchannels
  injective h h' := by
    rw [hnames] at h h'
    split at h <;> split at h'
    · next hother hother' => exact hother.symm.trans hother'
    · next hother hother' =>
      obtain rfl := (Prod.mk.inj (Option.some.inj h)).1
      exact absurd (honly _ _ h') hother'
    · next hother hother' =>
      obtain rfl := (Prod.mk.inj (Option.some.inj h')).1
      exact absurd (honly _ _ h) hother
    · exact hw.injective h h'

theorem end?_dropDevice? (b : Bench) (old : Option DeviceKey) (name : Text) :
    (b.dropDevice? old).1.end? name = b.end? name := by
  simp [end?, channels_dropDevice?]

theorem end?_dropEnds? (b : Bench) (old : Option ChannelEnds) (name : Text) :
    (b.dropEnds? old).end? name = b.end? name := by
  cases old <;> rfl

theorem end?_newChannel (b : Bench) (name : Text) (buffer : Nat) (old : Option ChannelEnds)
    (other : Text) : ((b.addChannel name buffer).dropEnds? old).end? other =
      if name = other then some (b.site.channels.length, true) else b.end? other := by
  have hput : (b.addChannel name buffer).channels =
      b.channels.put name { channel := b.site.channels.length, sender := some 0 } := rfl
  rw [end?_dropEnds?, end?_put hput]

theorem length_channels_newDevice (b : Bench) (name : Text) (key : RemoteKey)
    (keys : List ChannelKey) (old : Option DeviceKey) :
    ((b.addDevice name key keys).dropDevice? old).1.site.channels.length =
      b.site.channels.length := by
  have hadded := congrArg List.length (b.site.quiet_addSenders keys).channels
  have hdropped := congrArg List.length
    (quiet_dropDevice? (b.addDevice name key keys) old).channels
  rw [List.length_map, List.length_map] at hadded hdropped
  exact hdropped.trans hadded

theorem length_channels_newChannel (b : Bench) (name : Text) (buffer : Nat)
    (old : Option ChannelEnds) :
    ((b.addChannel name buffer).dropEnds? old).site.channels.length =
      b.site.channels.length + 1 := by
  cases old with
  | none => simp [dropEnds?, addChannel]
  | some ends => simp [dropEnds?, dropEnds, addChannel, Site.modifyChannel]

theorem Turn.wired (ht : Turn b a b' o) (hw : b.Wired) : b'.Wired := by
  cases ht with
  | told a names tells channels => exact hw.of_names names channels
  | newDevice name remote channels =>
    exact hw.of_names (end?_dropDevice? _ _) (length_channels_newDevice _ _ _ _ _)
  | newChannel name buffer =>
    have hlength := length_channels_newChannel b name buffer (b.channels.get? name)
    apply hw.of_put (end?_newChannel b name buffer _)
    · rw [hlength]
      exact Nat.lt_succ_self _
    · rw [hlength]
      exact Nat.le_succ _
    · intro other receiver' hother
      exact absurd (hw.made hother) (Nat.lt_irrefl _)
  | givesUp a ends held kept names site =>
    have hlength : b'.site.channels.length = b.site.channels.length := by
      simp [site, Site.modifyChannel]
    apply hw.of_put names
    · rw [hlength]
      exact hw.made held
    · exact Nat.le_of_eq hlength.symm
    · intro other receiver' hother
      exact hw.injective held hother
  | closes name held => exact hw.of_names (fun _ => rfl) (by simp [Site.modifyChannel])
  | receives name limit held => exact hw.of_names (fun _ => rfl) (by simp [Site.modifyChannel])

theorem Turn.length_channels_le (ht : Turn b a b' o) :
    b.site.channels.length ≤ b'.site.channels.length := by
  cases ht with
  | told a names tells channels => exact Nat.le_of_eq channels.symm
  | newDevice => exact Nat.le_of_eq (length_channels_newDevice _ _ _ _ _).symm
  | newChannel =>
    rw [length_channels_newChannel]
    exact Nat.le_succ _
  | givesUp a ends held kept names site => simp [site, Site.modifyChannel]
  | closes => simp [Site.modifyChannel]
  | receives => simp [Site.modifyChannel]

/-- Nobody gets hold of a receiver again. -/
theorem Turn.holds (ht : Turn b a b' o) (hlt : ch < b.site.channels.length)
    (hholds : b'.Holds ch) : b.Holds ch := by
  obtain ⟨name', hname'⟩ := hholds
  have hsame : (∀ name, b'.end? name = b.end? name) → b.Holds ch :=
    fun hnames => ⟨name', (hnames name').symm.trans hname'⟩
  cases ht with
  | told a names => exact hsame names
  | newDevice => exact hsame (end?_dropDevice? _ _)
  | newChannel name buffer =>
    rw [end?_newChannel] at hname'
    split at hname'
    · obtain rfl := (Prod.mk.inj (Option.some.inj hname')).1
      exact absurd hlt (Nat.lt_irrefl _)
    · exact ⟨name', hname'⟩
  | @givesUp a name receiver ends held kept b' names =>
    rw [names] at hname'
    split at hname'
    · obtain ⟨rfl, hboth⟩ := Prod.mk.inj (Option.some.inj hname')
      obtain ⟨rfl, -⟩ := Bool.and_eq_true_iff.1 hboth
      exact ⟨name, held⟩
    · exact ⟨name', hname'⟩
  | closes | receives => exact hsame fun _ => rfl

/-! ## One action -/

theorem receipts_eq_nil (h : b.withdrawals ch a = []) (o : Outcome) : receipts ch b a o = [] := by
  cases a with
  | receive name limit =>
    have hnot : ¬ (b.end? name).any (·.1 = ch) = true := by
      intro hany
      rw [withdrawals, if_pos hany] at h
      cases h
    exact if_neg hnot
  | _ => rfl

theorem serves_giveUp (ends : ChannelEnds) (c : Channel) :
    Channel.Serves (ends.receiver = false) (some c) [] [] (some (ends.giveUp c)) := by
  cases hreceiver : ends.receiver with
  | false =>
    have hbare : (some (ends.giveUp c)).map Channel.bare = (some c).map Channel.bare :=
      congrArg some (ends.bare_giveUp hreceiver)
    exact (Channel.serves_of_bare hbare).always
  | true =>
    obtain ⟨hclosed, hwaiting, -⟩ := ends.giveUp_of_receiver hreceiver (c := c)
    exact (Channel.serves_of_closed hclosed (Or.inr hwaiting)).mono nofun

/-- A channel notices of a new one at most that its ends are given up. -/
theorem Wired.serves_newChannel (hw : b.Wired) (name : Text) (buffer : Nat) :
    Channel.Serves (((b.addChannel name buffer).dropEnds? (b.channels.get? name)).Holds ch)
      (b.site.channel? ch) [] []
      (((b.addChannel name buffer).dropEnds? (b.channels.get? name)).site.channel? ch) := by
  have hadded : Channel.Serves True (b.site.channel? ch) [] []
      ((b.addChannel name buffer).site.channel? ch) := by
    change Channel.Serves True b.site.channels[ch]? [] []
      (b.site.channels ++ [{ buffer, senders := [0], issued := 1 }])[ch]?
    rcases Nat.lt_trichotomy ch b.site.channels.length with hlt | rfl | hgt
    · rw [List.getElem?_append_left hlt]
      exact Channel.serves_refl
    · rw [List.getElem?_concat_length, List.getElem?_eq_none (Nat.le_refl _)]
      exact Channel.serves_of_new rfl
    · have hle : (b.site.channels ++
          [({ buffer, senders := [0], issued := 1 } : Channel)]).length ≤ ch := by
        simpa using Nat.succ_le_of_lt hgt
      rw [List.getElem?_eq_none hle, List.getElem?_eq_none (Nat.le_of_lt hgt)]
      exact Channel.serves_refl
  cases hold : b.channels.get? name with
  | none => exact hadded.always
  | some ends =>
    have hheld := end?_of_get? hold
    have hgiven : Channel.Serves (((b.addChannel name buffer).dropEnds? (some ends)).Holds ch)
        ((b.addChannel name buffer).site.channel? ch) [] []
        (((b.addChannel name buffer).dropEnds? (some ends)).site.channel? ch) := by
      apply Site.serves_modifyChannel
      rintro rfl c -
      apply (serves_giveUp ends c).mono
      rintro - ⟨other, hother⟩
      rw [end?_newChannel] at hother
      split at hother
      · have hkey := (Prod.mk.inj (Option.some.inj hother)).1
        exact absurd (hw.made hheld) (hkey ▸ Nat.lt_irrefl _)
      · next hne => exact absurd (hw.injective hheld hother) hne
    exact (hadded.trans hgiven).mono fun _ hholds => ⟨trivial, hholds⟩

section NewDevice

variable {name : Text} {key : RemoteKey} {keys : List ChannelKey} {old : Option DeviceKey}

theorem sole_newDevice
    (h : (b.addDevice name key keys).site.Sole ch k m) :
    ((b.addDevice name key keys).dropDevice? old).1.site.Sole ch k m :=
  (quiet_dropDevice? _ old).sole h

/-- A channel notices of a new device at most that there is one sender more. -/
theorem serves_newDevice (b : Bench) (name : Text) (key : RemoteKey) (keys : List ChannelKey)
    (old : Option DeviceKey) : Channel.Serves True (b.site.channel? ch) [] []
      (((b.addDevice name key keys).dropDevice? old).1.site.channel? ch) := by
  have hadded := (b.site.quiet_addSenders keys).map_channel? ch
  have hdropped := (quiet_dropDevice? (b.addDevice name key keys) old).map_channel? ch
  exact Channel.serves_of_bare (hdropped.trans hadded)

theorem length_devices_newDevice (b : Bench) (name : Text) (key : RemoteKey)
    (keys : List ChannelKey) (old : Option DeviceKey) :
    ((b.addDevice name key keys).dropDevice? old).1.site.devices.length =
      b.site.devices.length + 1 :=
  congrArg Prod.snd ((size_dropDevice? _ old).trans (size_addDevice b name key keys))

theorem Wired.length_filter_addSenders (hw : b.Wired) {names : List Text}
    (hkeys : b.channelKeys names = .ok keys) (ch : ChannelKey) :
    ((b.site.addSenders keys).2.filter (·.channel = ch)).length = keys.count ch := by
  apply b.site.length_filter_addSenders
  intro key hkey
  obtain ⟨name, receiver, hname⟩ := mem_of_channelKeys hkeys hkey
  exact hw.made hname

end NewDevice

/-- What is done with a channel by an action that gives nobody a sender of it. -/
theorem Turn.serves (ht : Turn b a b' o) (hw : b.Wired) (hsole : b.site.Sole ch k m)
    (hgrants : b.grants ch a = [])
    (hk : b'.site.devices.length ≤ k ∨ k < b.site.devices.length) :
    b'.site.Sole ch k m ∧
      Channel.Serves (b'.Holds ch) (b.site.channel? ch)
        (b.withdrawals ch a ++ (o.trace.publications k).map .put)
        (receipts ch b a o ++ (o.trace.offers ch).map .offered) (b'.site.channel? ch) := by
  cases ht with
  | told a names tells channels devices idle =>
    obtain ⟨hsole', hserves⟩ := tells ch k m hsole
    obtain ⟨-, hwithdrawals⟩ := idle ch
    rw [receipts_eq_nil hwithdrawals, hwithdrawals]
    exact ⟨hsole', hserves.always⟩
  | @newDevice name remote channels key keys hkey hkeys =>
    have hlength := length_devices_newDevice b name key keys (b.devices.get? name)
    have hne : (b.site.addSenders keys).1.devices.length ≠ k := by
      rw [Site.devices_addSenders]
      rcases hk with hle | hlt
      · rw [hlength] at hle
        exact Nat.ne_of_lt hle
      · exact Nat.ne_of_gt hlt
    have hnone : (b.site.addSenders keys).2.filter (·.channel = ch) = [] := by
      apply List.eq_nil_of_length_eq_zero
      rw [hw.length_filter_addSenders hkeys]
      simpa [grants, hkey, hkeys] using hgrants
    have hadded : (b.addDevice name key keys).site.Sole ch k m :=
      ((b.site.quiet_addSenders keys).sole hsole).addDevice_of_ne hne hnone key
    refine ⟨sole_newDevice hadded, ?_⟩
    simp only [publications_dropDevice?, offers_dropDevice?]
    exact (serves_newDevice b name key keys _).always
  | newChannel name buffer =>
    have hadded : (b.addChannel name buffer).site.Sole ch k m := hsole.addChannel rfl rfl
    refine ⟨?_, hw.serves_newChannel name buffer⟩
    cases b.channels.get? name with
    | none => exact hadded
    | some ends =>
      exact hadded.modifyChannel fun c _ =>
        ⟨ChannelEnds.paced_giveUp, ChannelEnds.accepting_giveUp⟩
  | givesUp a ends held kept names site ha =>
    have hwithdrawals : b.withdrawals ch a = [] := by rcases ha with rfl | rfl <;> rfl
    rw [receipts_eq_nil hwithdrawals, hwithdrawals, site]
    constructor
    · exact hsole.modifyChannel fun c _ =>
        ⟨ChannelEnds.paced_giveUp, ChannelEnds.accepting_giveUp⟩
    · apply Site.serves_modifyChannel
      rintro rfl c -
      apply (serves_giveUp ends c).mono
      rintro - ⟨other, hother⟩
      rw [names] at hother
      split at hother
      · have hboth := (Prod.mk.inj (Option.some.inj hother)).2
        simpa using (Bool.and_eq_true_iff.1 hboth).2
      · next hne => exact absurd (hw.injective held hother) hne
  | @closes name key receiver held =>
    refine ⟨hsole.modifyChannel fun c _ => ⟨Channel.Paced.close, fun _ => rfl⟩, ?_⟩
    apply Site.serves_modifyChannel
    intro _ c _
    have hclosed : c.close.accepting = false := rfl
    have hwaiting : c.close.waiting = c.waiting := rfl
    exact (Channel.serves_of_closed hclosed (Or.inl hwaiting)).mono fun _ _ => rfl
  | @receives name limit key receiver c held hc =>
    constructor
    · apply hsole.modifyChannel
      intro c' hc'
      obtain rfl := Option.some.inj (hc.symm.trans hc')
      refine ⟨fun hpaced => hpaced.withdraw limit, ?_⟩
      rw [Channel.withdraw_eq]
      exact id
    · by_cases hch : key = ch
      · subst hch
        have hany : (b.end? name).any (·.1 = key) = true := by simp [held]
        have huses : b.withdrawals key (.receive name limit) = [.take limit] := if_pos hany
        have hreceipts : receipts key b (.receive name limit)
            { answer := .received (c.withdraw limit).2.1 (c.withdraw limit).2.2 } =
              [.taken (c.withdraw limit).2.1] := if_pos hany
        rw [huses, hreceipts, hc, Site.channel?_modifyChannel, if_pos rfl, hc]
        exact (Channel.serves_withdraw c limit).always
      · have hnot : ¬ (b.end? name).any (·.1 = ch) = true := by simp [held, hch]
        have huses : b.withdrawals ch (.receive name limit) = [] := if_neg hnot
        rw [receipts_eq_nil huses, huses]
        apply Site.serves_modifyChannel
        intro hkey
        exact absurd hkey hch

/-- What is done with an empty channel by an action that gives a sender of it to a device. -/
theorem Turn.serves_of_grants (ht : Turn b a b' o) (hw : b.Wired) (hsole : b.site.Sole ch k m)
    (hgrants : b.grants ch a = [k]) (hcontent : Channel.content (b.site.channel? ch) = []) :
    k < b'.site.devices.length ∧ (∃ number, b'.site.Sole ch k number) ∧
      Channel.Serves (b'.Holds ch) (b.site.channel? ch)
        (b.withdrawals ch a ++ (o.trace.publications k).map .put)
        (receipts ch b a o ++ (o.trace.offers ch).map .offered) (b'.site.channel? ch) := by
  cases ht with
  | told a names tells channels devices idle => simp [(idle ch).1] at hgrants
  | newChannel | closes | receives => cases hgrants
  | givesUp a ends held kept names site ha =>
    rcases ha with rfl | rfl <;> cases hgrants
  | @newDevice name remote channels key keys hkey hkeys =>
    have hlength := length_devices_newDevice b name key keys (b.devices.get? name)
    have hreplicate : List.replicate (keys.count ch) b.site.devices.length = [k] := by
      simpa [grants, hkey, hkeys] using hgrants
    have hcount : keys.count ch = 1 := by simpa using congrArg List.length hreplicate
    obtain rfl : b.site.devices.length = k := by simpa [hcount] using hreplicate
    obtain ⟨sender, hsender⟩ := List.length_eq_one_iff.1
      ((hw.length_filter_addSenders hkeys ch).trans hcount)
    have hmem : sender ∈ (b.site.addSenders keys).2.filter (·.channel = ch) := by simp [hsender]
    obtain ⟨channel, number⟩ := sender
    obtain rfl : channel = ch := by simpa using (List.mem_filter.1 hmem).2
    obtain ⟨name', receiver, hname'⟩ :=
      mem_of_channelKeys hkeys (List.count_pos_iff.1 (hcount ▸ Nat.one_pos))
    refine ⟨?_, ⟨number, sole_newDevice ?_⟩, ?_⟩
    · rw [hlength]
      exact Nat.lt_succ_self _
    · have hlt := hw.made hname'
      have hc : b.site.channel? channel = some b.site.channels[channel] :=
        List.getElem?_eq_getElem hlt
      have hbare := (b.site.quiet_addSenders keys).map_channel? channel
      rw [hc, Option.map_some] at hbare
      obtain ⟨c, hc₁, hbare⟩ := Option.map_eq_some_iff.1 hbare
      obtain ⟨-, hwaiting, -⟩ := Channel.eq_of_bare hbare
      rw [hc] at hcontent
      have hadded := (b.site.quiet_addSenders keys).sole hsole
      rw [← b.site.devices_addSenders keys] at hadded ⊢
      exact hadded.addDevice_self hc₁ (hwaiting.trans hcontent) hsender key
    · simp only [publications_dropDevice?, offers_dropDevice?]
      exact (serves_newDevice b name key keys _).always

/-! ## What a device publishes -/

/-- A device that an action drops is told nothing by it. -/
theorem Transition.deliveries_of_dropped (ht : Transition b a b' o) (h : b.Sound)
    (hnone : b'.site.device? k = none) : o.trace.deliveries k = [] := by
  cases ht with
  | idle | channels | cloneRemote | dropRemote | newRemote => rfl
  | @newDevice name =>
    cases b.devices.get? name with
    | none => rfl
    | some old => exact Trace.deliveries_of_calls_eq_nil (Site.calls_dropDevice _ old)
  | dropDevice => exact Trace.deliveries_of_calls_eq_nil (Site.calls_dropDevice _ _)
  | @start name key =>
    rcases h.site.start_cases key with ⟨-, hcalls, -⟩ | ⟨d, r, -, -, -, -, -, he⟩
    · exact Trace.deliveries_of_calls_eq_nil hcalls
    · obtain ⟨d', hd', -⟩ := he.device?
      refine (Trace.deliveries_of_calls_eq_singleton he.calls).trans (if_neg ?_)
      intro hk
      obtain rfl : key = k := Observer.device.inj hk
      exact absurd (hd'.symm.trans hnone) nofun
  | @setState remote state upset key =>
    rcases Site.setState_cases b.site key state upset with ⟨-, hcalls, -⟩ | ⟨r, hr, -, -, he⟩
    · exact Trace.deliveries_of_calls_eq_nil hcalls
    · apply Trace.deliveries_eq_nil_iff.2
      intro c hc hk
      obtain ⟨⟨id, observer⟩, hi, rfl⟩ := List.mem_map.1 (he.calls ▸ hc)
      obtain rfl : observer = .device k := hk
      obtain ⟨d, hd, -⟩ := h.site.observed hr (mem_of_mem_told hi)
      obtain ⟨d', hd', -⟩ := he.device?_of_told k d id hd hi
      exact absurd (hd'.symm.trans hnone) nofun
  | refused name holder failsOn => exact Site.deliveries_subscribe_recorder name failsOn
  | @subscribed name holder failsOn key _ id _ b₁ =>
    rw [Trace.deliveries_append, Site.deliveries_subscribe_recorder,
      Trace.deliveries_of_calls_eq_nil (calls_dropSubscription? b₁ _), List.append_nil]
  | @unsubscribe name s =>
    exact Trace.deliveries_of_calls_eq_nil (calls_dropSubscription? b (some s))

/-- What a device publishes is the status that it comes to show. -/
theorem Sound.publications_eq (h : b.Sound) (a : Action) (k : DeviceKey) :
    (b.step a).2.trace.publications k = (b.shift? a k).toList := by
  have ht := transition_step b a
  cases hd : b.site.device? k with
  | none =>
    rw [shift?_of_none hd]
    exact ht.prompted k (h.deliveries_of_none hd a)
  | some d =>
    cases hd' : (b.step a).1.site.device? k with
    | none =>
      have hshift : b.shift? a k = none := by simp [shift?, hd, hd']
      rw [hshift]
      exact ht.prompted k (ht.deliveries_of_dropped h hd')
    | some d' =>
      obtain ⟨r, -, hstep⟩ := h.device_step hd hd'
      exact (toList_shift? hd hd' hstep).symm

/-! ## Runs -/

theorem mem_grants {key : DeviceKey} (h : key ∈ b.grants ch a) :
    key = b.site.devices.length := by
  unfold grants at h
  split at h
  · split at h
    · exact List.eq_of_mem_replicate h
    · simp at h
  · simp at h

/-- A sender is given to a device that is made at that moment. -/
theorem le_of_mem_collect_grants {actions : List Action} {key : DeviceKey}
    (h : key ∈ collect (grants ch) b actions) : b.site.devices.length ≤ key := by
  induction actions generalizing b with
  | nil => simp [collect] at h
  | cons a rest ih =>
    rw [collect, List.mem_append] at h
    rcases h with hfirst | hrest
    · exact Nat.le_of_eq (mem_grants hfirst).symm
    · exact Nat.le_trans (transition_step b a).length_devices_le (ih hrest)

/-- A channel belongs to one device: either it gets the sender in the actions to come, and nothing
waits until then, or it has got it and nobody gets another one. -/
structure Alone (ch : ChannelKey) (k : DeviceKey) (b : Bench) (rest : List Action) : Prop where
  sound : b.Sound
  wired : b.Wired
  sole : ∃ m, b.site.Sole ch k m
  pending : collect (grants ch) b rest = [k] ∧ Channel.content (b.site.channel? ch) = [] ∨
    collect (grants ch) b rest = [] ∧ k < b.site.devices.length

theorem puts_uses (ch : ChannelKey) (k : DeviceKey) (b : Bench) (a : Action) :
    Queue.puts (uses ch k b a) = (b.shift? a k).toList := by
  have hnone : Queue.puts (b.withdrawals ch a) = [] := by
    unfold withdrawals
    split
    · split <;> rfl
    · rfl
  rw [uses, Queue.puts_append, hnone, Queue.puts_map_put, List.nil_append]

theorem puts_collect_uses (ch : ChannelKey) (k : DeviceKey) (b : Bench) (actions : List Action) :
    Queue.puts (collect (uses ch k) b actions) = b.shifts actions k := by
  induction actions generalizing b with
  | nil => rfl
  | cons a rest ih => rw [collect, Queue.puts_append, puts_uses, ih, shifts, shifts, gather]

theorem Alone.step {rest : List Action} (h : Alone ch k b (a :: rest)) :
    Alone ch k (b.step a).1 rest ∧
      Channel.Serves ((b.step a).1.Holds ch) (b.site.channel? ch) (uses ch k b a)
        (replies ch b a) ((b.step a).1.site.channel? ch) := by
  have ht := h.sound.turn_step h.wired a
  have huses : b.withdrawals ch a ++ ((b.step a).2.trace.publications k).map .put =
      uses ch k b a := by rw [uses, h.sound.publications_eq]
  rw [← huses]
  have hsound := h.sound.step a
  have hwired := ht.wired h.wired
  have hle := (transition_step b a).length_devices_le
  obtain ⟨m, hsole⟩ := h.sole
  rcases h.pending with ⟨hpending, hcontent⟩ | ⟨hpending, hlt⟩
  · rw [collect, List.append_eq_singleton_iff] at hpending
    rcases hpending with ⟨hnow, hlater⟩ | ⟨hnow, hlater⟩
    · have hk : (b.step a).1.site.devices.length ≤ k :=
        le_of_mem_collect_grants (by rw [hlater]; simp)
      obtain ⟨hsole', hserves⟩ := ht.serves h.wired hsole hnow (Or.inl hk)
      refine ⟨⟨hsound, hwired, ⟨m, hsole'⟩, Or.inl ⟨hlater, ?_⟩⟩, hserves⟩
      -- A device that does not exist yet publishes nothing.
      have hnone : b.site.device? k = none := by
        simp [Site.device?, List.getElem?_eq_none (Nat.le_trans hle hk)]
      have hputs : Queue.puts (uses ch k b a) = [] := by
        rw [puts_uses, shift?_of_none hnone, Option.toList_none]
      rw [huses] at hserves
      have hwithin : (Queue.got (replies ch b a) ++ Channel.content
          ((b.step a).1.site.channel? ch)).Sublist
            (Channel.content (b.site.channel? ch) ++ Queue.puts (uses ch k b a)) :=
        hserves.within
      rw [hcontent, hputs, List.nil_append, List.sublist_nil, List.append_eq_nil_iff] at hwithin
      exact hwithin.2
    · obtain ⟨hlt, hsole', hserves⟩ := ht.serves_of_grants h.wired hsole hnow hcontent
      exact ⟨⟨hsound, hwired, hsole', Or.inr ⟨hlater, hlt⟩⟩, hserves⟩
  · rw [collect, List.append_eq_nil_iff] at hpending
    obtain ⟨hsole', hserves⟩ := ht.serves h.wired hsole hpending.1 (Or.inr hlt)
    exact ⟨⟨hsound, hwired, ⟨m, hsole'⟩, Or.inr ⟨hpending.2, Nat.lt_of_lt_of_le hlt hle⟩⟩,
      hserves⟩

/-- A run does with a channel what its actions do, one after the other. -/
theorem Alone.run {first rest : List Action} (h : Alone ch k b (first ++ rest)) :
    Alone ch k (b.run first).1 rest ∧ (ch < b.site.channels.length →
      (b.run first).1.Holds ch → b.Holds ch) ∧
      Channel.Serves ((b.run first).1.Holds ch) (b.site.channel? ch)
        (collect (uses ch k) b first) (collect (replies ch) b first)
        ((b.run first).1.site.channel? ch) := by
  induction first generalizing b with
  | nil => exact ⟨h, fun _ => id, Channel.serves_refl.always⟩
  | cons a first ih =>
    obtain ⟨hstep, hserves⟩ := h.step
    obtain ⟨hrun, hholds, hserves'⟩ := ih hstep
    have ht := h.sound.turn_step h.wired a
    have hkept : ch < b.site.channels.length → ((b.step a).1.run first).1.Holds ch →
        (b.step a).1.Holds ch :=
      fun hlt => hholds (Nat.lt_of_lt_of_le hlt ht.length_channels_le)
    refine ⟨hrun, fun hlt hlast => ht.holds hlt (hkept hlt hlast), ?_⟩
    apply (hserves.trans hserves').mono
    rintro ⟨c, hc, -⟩ hlast
    exact ⟨hkept (List.getElem?_eq_some_iff.1 hc).1 hlast, hlast⟩

theorem alone_empty {actions : List Action} (h : collect (grants ch) {} actions = [k]) :
    Alone ch k {} actions where
  sound := sound_empty
  wired :=
    { made := fun h => by simp [end?, Named.get?] at h
      injective := fun h => by simp [end?, Named.get?] at h }
  sole := ⟨0,
    { paced := fun h => by simp [Site.channel?] at h
      others := fun h => by simp [Site.device?] at h
      holder := fun h => by simp [Site.device?] at h }⟩
  pending := Or.inl ⟨h, by simp [Site.channel?, Channel.content]⟩

/-! ## The main statement -/

theorem step_receive {name : Text} {receiver : Bool} {c : Channel} (limit : Option Nat)
    (hname : b.end? name = some (ch, receiver)) (hc : b.site.channel? ch = some c) :
    b.step (.receive name limit) =
      ({ b with site := b.site.modifyChannel ch fun _ => (c.withdraw limit).1 },
        { answer := .received (c.withdraw limit).2.1 (c.withdraw limit).2.2 }) := by
  obtain ⟨ends, hends, heq⟩ := Option.map_eq_some_iff.1 hname
  obtain ⟨rfl, -⟩ := Prod.mk.inj heq
  simp only [step, withChannel, hends, hc]
  cases limit <;> rfl

/-- A device publishes into a bounded queue.  In every run in which the sender of a channel is given
to one device, once, the channel behaves at every moment as a queue for one event more than its
buffer says. -/
theorem channel_is_bounded_queue {actions : List Action} {ch : ChannelKey} {k : DeviceKey}
    (hgrants : collect (grants ch) {} actions = [k]) {first rest : List Action}
    (hsplit : actions = first ++ rest) {c : Channel}
    (hc : (run {} first).1.site.channel? ch = some c) : BoundedQueue ch k first c := by
  subst hsplit
  have hempty := alone_empty hgrants
  obtain ⟨hlast, -, hserves⟩ := hempty.run
  have hbetween : ∀ before between, first = before ++ between →
      Channel.Serves ((run {} first).1.Holds ch) ((run {} before).1.site.channel? ch)
        (collect (uses ch k) (run {} before).1 between)
        (collect (replies ch) (run {} before).1 between) (some c) := by
    rintro before between rfl
    rw [List.append_assoc] at hempty
    obtain ⟨-, -, hserves⟩ := hempty.run.1.run
    rw [← hc, run_append]
    exact hserves
  obtain ⟨m, hsole⟩ := hlast.sole
  rw [hc] at hserves
  exact
    { bounded := (hsole.paced hc).bounded
      queue := by
        intro hopen
        exact (hserves.opened (Channel.isOpen_some.2 ⟨rfl, hopen⟩)).2
      ordered := by
        have hwithin := hserves.within
        rw [puts_collect_uses] at hwithin
        exact hwithin
      lossless := by
        intro hopen before between hsplit hnil hroom
        obtain ⟨-, hqueue⟩ :=
          (hbetween before between hsplit).opened (Channel.isOpen_some.2 ⟨rfl, hopen⟩)
        obtain ⟨hcontent, hreplies⟩ := Prod.mk.inj hqueue
        have hfits : (Channel.content ((run {} before).1.site.channel? ch)).length +
            (Queue.puts (collect (uses ch k) (run {} before).1 between)).length ≤
              c.buffer + 1 := by
          rw [hnil, puts_collect_uses]
          simpa using hroom
        have hall := Queue.got_append_eq hfits
        rw [← hcontent, ← hreplies, hnil, puts_collect_uses] at hall
        exact hall
      closed := by
        intro before between c₀ hsplit hc₀ hclosed
        have hserves := hbetween before between hsplit
        rw [hc₀] at hserves
        obtain ⟨hclosed', hprefix, heq⟩ := hserves.closed (Channel.isClosed_some.2 hclosed)
        exact ⟨Channel.isClosed_some.1 hclosed', hprefix, heq⟩
      receive := by
        intro name receiver limit hname
        rw [step_receive limit hname hc, Channel.withdraw_eq]
        exact ⟨rfl, by simp [Channel.content, hc]⟩ }

/-- A device publishes three times to a channel with a buffer for one event, twice after everything
has been received, and once after the channel has been closed. -/
def crowded : List Action :=
  [.newChannel ['c'] 1, .newRemote ['r'] ['p'], .newDevice ['a'] (.handle ['r']) [['c']],
    .start ['a'], .setState (.handle ['r']) .connected, .setState (.handle ['r']) .disconnected,
    .receive ['c'] none, .setState (.handle ['r']) .connected,
    .setState (.handle ['r']) .disconnected, .closeReceiver ['c'],
    .setState (.handle ['r']) .connected]

/-- The third event is discarded, and so is the one that comes when the channel is closed. -/
theorem channel_is_bounded_queue_crowded :
    Queue.serve 2 [] (collect (uses 0 0) {} (crowded.take 9)) =
        ([.connected, .disconnected],
          [.offered .queued, .offered .queued, .offered .full, .taken [.disconnected, .connected],
            .offered .queued, .offered .queued]) ∧
      received 0 (run {} (crowded.take 7)).1 ((crowded.take 9).drop 7) ++
          [.connected, .disconnected] =
        (run {} (crowded.take 7)).1.shifts ((crowded.take 9).drop 7) 0 ∧
      ((run {} crowded).1.step (.receive ['c'] (some 1))).2.answer =
        .received [.connected] .limit := by
  have hgrants : collect (grants 0) {} crowded = [0] := by decide
  have hsplit : crowded = crowded.take 9 ++ crowded.drop 9 := rfl
  have hopen : BoundedQueue 0 0 (crowded.take 9)
      { buffer := 1, waiting := [.connected, .disconnected], parked := [1], senders := [0, 1],
        issued := 2 } :=
    channel_is_bounded_queue hgrants hsplit (by decide)
  have hclosed : BoundedQueue 0 0 crowded
      { buffer := 1, waiting := [.connected, .disconnected], accepting := false, senders := [0],
        issued := 2 } :=
    channel_is_bounded_queue hgrants (List.append_nil crowded).symm (by decide)
  refine ⟨?_, ?_, ?_⟩
  · rw [← hopen.queue rfl]
    decide
  · exact hopen.lossless rfl (crowded.take 7) _ rfl (by decide) (by decide)
  · exact (hclosed.receive ['c'] true (some 1) (by decide)).1

end Bench

end DeviceTwin
