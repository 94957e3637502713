import DeviceTwin.Proofs.Site.Senders

/-!
# Attempts to hand a status change over

A device that publishes a status change tries all of its senders, each once and in their order, and
gives those up whose channel is closed.  Nothing else is given up: a channel that has no room for
the event is not closed, and a closed channel has nobody parked, so that it refuses every event as
such (`Site.Tidy`).  `Site.Attempted` says this of everything that devices publish between two
moments, whichever channels their senders lead to.
-/

namespace DeviceTwin

/-- One attempt of a device to hand a status change to a sender. -/
structure Attempt where
  device : DeviceKey
  sender : Sender
  delivery : Channel.Delivery
  deriving DecidableEq, Repr

namespace Trace

/-- The attempts in a trace, in their order. -/
def attempts (t : Trace) : List Attempt :=
  t.filterMap fun
    | .offered device sender delivery => some { device, sender, delivery }
    | _ => none

/-- The attempts of one device. -/
def attemptsOf (t : Trace) (k : DeviceKey) : List Attempt := t.attempts.filter (·.device = k)

/-- The attempts at the senders of one channel. -/
def attemptsTo (t : Trace) (ch : ChannelKey) : List Attempt :=
  t.attempts.filter (·.sender.channel = ch)

@[simp] theorem attempts_nil : attempts [] = [] := rfl

@[simp] theorem attempts_append (t u : Trace) : attempts (t ++ u) = t.attempts ++ u.attempts :=
  List.filterMap_append

@[simp] theorem attempts_cons_called (remote : RemoteKey) (id : ObserverId) (observer : Observer)
    (state : Connection) (t : Trace) :
    attempts (.called remote id observer state :: t) = t.attempts := rfl

@[simp] theorem attempts_cons_logged (record : Log.Record) (t : Trace) :
    attempts (.logged record :: t) = t.attempts := rfl

@[simp] theorem attempts_cons_published (key : DeviceKey) (status : Status) (t : Trace) :
    attempts (.published key status :: t) = t.attempts := rfl

@[simp] theorem attempts_cons_offered (device : DeviceKey) (sender : Sender)
    (delivery : Channel.Delivery) (t : Trace) :
    attempts (.offered device sender delivery :: t) =
      { device, sender, delivery } :: t.attempts := rfl

@[simp] theorem attempts_map_logged (records : List Log.Record) :
    attempts (records.map .logged) = [] := by
  induction records with
  | nil => rfl
  | cons record records ih => exact ih

@[simp] theorem attemptsOf_append (t u : Trace) (k : DeviceKey) :
    attemptsOf (t ++ u) k = t.attemptsOf k ++ u.attemptsOf k := by
  simp [attemptsOf]

@[simp] theorem attemptsTo_append (t u : Trace) (ch : ChannelKey) :
    attemptsTo (t ++ u) ch = t.attemptsTo ch ++ u.attemptsTo ch := by
  simp [attemptsTo]

theorem offers_eq_map (t : Trace) (ch : ChannelKey) :
    t.offers ch = (t.attemptsTo ch).map (·.delivery) := by
  induction t with
  | nil => rfl
  | cons happening t ih =>
    cases happening with
    | offered device sender delivery =>
      by_cases h : sender.channel = ch <;> simp [offers_cons_offered, attemptsTo, h, ih]
    | _ => exact ih

/-- Where no channel is offered anything, nobody has tried. -/
theorem attempts_eq_nil {t : Trace} (h : ∀ ch, t.offers ch = []) : t.attempts = [] := by
  apply List.eq_nil_iff_forall_not_mem.2
  intro x hx
  have hnone := h x.sender.channel
  rw [offers_eq_map, List.map_eq_nil_iff, attemptsTo, List.filter_eq_nil_iff] at hnone
  exact hnone x hx (by simp)

end Trace

/-! ## One event and one channel -/

namespace Channel

variable {c : Channel}

/-- A closed channel has nobody parked. -/
def Freed (c : Channel) : Prop := c.accepting = false → c.parked = []

theorem Freed.of_bare {c' : Channel} (h : c.Freed) (hbare : c'.bare = c.bare) : c'.Freed := by
  obtain ⟨-, -, haccepting, hparked⟩ := eq_of_bare hbare
  intro hclosed
  rw [hparked, h (haccepting ▸ hclosed)]

theorem Freed.delivery_eq_closed_iff (h : c.Freed) (m : Nat) (event : Status) :
    (c.send m event).2 = .closed ↔ c.accepting = false := by
  cases hopen : c.accepting with
  | false => simp [send, h hopen, hopen]
  | true =>
    simp only [send, hopen]
    split <;> simp

theorem accepting_offered (c : Channel) (m : Nat) (event : Status) :
    (c.offered m event).accepting = c.accepting := by
  unfold offered send
  split
  · rfl
  · split <;> rfl

theorem Freed.offered (h : c.Freed) (m : Nat) (event : Status) : (c.offered m event).Freed := by
  intro hclosed
  have hclosed : c.accepting = false := (accepting_offered c m event).symm.trans hclosed
  simp [Channel.offered, send, h hclosed, hclosed, dropSender]

end Channel

/-! ## One event and the senders of a device -/

/-- Whether there is a channel that takes events. -/
def accepts (channels : List Channel) (ch : ChannelKey) : Bool :=
  channels[ch]?.any (·.accepting)

section Offer

variable {key : DeviceKey} {status : Status} {channels channels' : List Channel}
  {senders : List Sender} {c : Channel} {ch : ChannelKey} {m : Nat}

theorem accepts_of_some (hc : channels[ch]? = some c) : accepts channels ch = c.accepting := by
  simp [accepts, hc]

theorem accepts_congr (h : channels'.map Channel.accepting = channels.map Channel.accepting) :
    accepts channels' = accepts channels := by
  funext ch
  have hch : channels'[ch]?.map Channel.accepting = channels[ch]?.map Channel.accepting := by
    rw [← List.getElem?_map, h, List.getElem?_map]
  cases hc : channels[ch]? <;> cases hc' : channels'[ch]? <;> simp_all [accepts]

theorem map_accepting_offered (hc : channels[ch]? = some c) (m : Nat) (status : Status) :
    (channels.set ch (c.offered m status)).map Channel.accepting =
      channels.map Channel.accepting := by
  obtain ⟨hlt, rfl⟩ := List.getElem?_eq_some_iff.1 hc
  rw [List.map_set, Channel.accepting_offered, ← List.map_set, List.set_getElem_self]

theorem freed_offered (hfreed : ∀ c ∈ channels, c.Freed) (hc : channels[ch]? = some c) (m : Nat)
    (status : Status) : ∀ x ∈ channels.set ch (c.offered m status), x.Freed := by
  intro x hx
  rcases List.mem_or_eq_of_mem_set hx with hx | rfl
  · exact hfreed x hx
  · exact (hfreed c (List.mem_of_getElem? hc)).offered m status

/-- What comes of handing a status change to senders that lead to channels. -/
structure Offered (key : DeviceKey) (channels : List Channel) (senders : List Sender)
    (channels' : List Channel) (kept : List Sender) (attempts : List Attempt) : Prop where
  accepting : channels'.map Channel.accepting = channels.map Channel.accepting
  freed : ∀ c ∈ channels', c.Freed
  kept : kept = senders.filter (accepts channels ·.channel)
  device : ∀ x ∈ attempts, x.device = key
  tried : attempts.map (·.sender) = senders
  closed : ∀ x ∈ attempts, x.delivery = .closed ↔ accepts channels x.sender.channel = false

theorem offered_offer (hfreed : ∀ c ∈ channels, c.Freed)
    (hlinked : ∀ x ∈ senders, x.channel < channels.length) :
    Offered key channels senders (offer key status channels senders).1
      (offer key status channels senders).2.1
      (offer key status channels senders).2.2.attempts := by
  induction senders generalizing channels with
  | nil => exact ⟨rfl, hfreed, rfl, nofun, rfl, nofun⟩
  | cons sender rest ih =>
    have hlt : sender.channel < channels.length := hlinked sender List.mem_cons_self
    obtain ⟨c, hc⟩ : ∃ c, channels[sender.channel]? = some c :=
      ⟨_, List.getElem?_eq_getElem hlt⟩
    have hclosed := (hfreed c (List.mem_of_getElem? hc)).delivery_eq_closed_iff sender.number status
    have haccepting := map_accepting_offered hc sender.number status
    have hothers := ih (freed_offered hfreed hc sender.number status) fun x hx => by
      rw [List.length_set]
      exact hlinked x (List.mem_cons_of_mem _ hx)
    have hsame := accepts_congr haccepting
    have hattempts : ∀ t : Trace, Trace.attempts
        ((if (c.send sender.number status).2 = .full then [.logged .eventDropped] else []) ++ t) =
          t.attempts := by
      intro t
      split <;> simp
    have hkept : (if (c.send sender.number status).2 = .closed then [] else [sender]) ++
        rest.filter (accepts channels ·.channel) =
          (sender :: rest).filter (accepts channels ·.channel) := by
      have hfirst := accepts_of_some hc
      cases hopen : c.accepting <;> simp [hclosed, hopen, hfirst]
    rw [offer_cons hc]
    dsimp only
    constructor
    · exact hothers.accepting.trans haccepting
    · exact hothers.freed
    · rw [hothers.kept, hsame]
      exact hkept
    · rw [Trace.attempts_cons_offered, hattempts]
      exact List.forall_mem_cons.2 ⟨rfl, hothers.device⟩
    · rw [Trace.attempts_cons_offered, hattempts, List.map_cons, hothers.tried]
    · rw [Trace.attempts_cons_offered, hattempts, ← hsame]
      refine List.forall_mem_cons.2 ⟨?_, hothers.closed⟩
      rw [hclosed, hsame, accepts_of_some hc]

end Offer

/-! ## What devices try -/

/-- What a device has done between two moments: it published nothing and kept its senders, or it
published one status change and tried each of them. -/
inductive Device.Attempted (accepts : ChannelKey → Bool) (published : List Status)
    (attempts : List Attempt) (d d' : Device) : Prop where
  | silent (published : published = []) (attempts : attempts = [])
      (senders : d'.senders = d.senders)
  | tried (status : Status) (published : published = [status])
      (tried : attempts.map (·.sender) = d.senders)
      (closed : ∀ x ∈ attempts, x.delivery = .closed ↔ accepts x.sender.channel = false)
      (senders : d'.senders = d.senders.filter (accepts ·.channel))

namespace Site

/-- Closed channels have nobody parked, and senders lead to channels. -/
structure Tidy (s : Site) : Prop where
  freed : ∀ c ∈ s.channels, c.Freed
  linked : ∀ {k d}, s.device? k = some d → ∀ x ∈ d.senders, x.channel < s.channels.length

/-- What devices have done between two moments, of which the trace tells. -/
structure Attempted (s : Site) (t : Trace) (s' : Site) : Prop where
  tidy : s'.Tidy
  accepting : s'.channels.map Channel.accepting = s.channels.map Channel.accepting
  device : ∀ {k d'}, s'.device? k = some d' → ∃ d, s.device? k = some d ∧
    d.Attempted (accepts s.channels) (t.publications k) (t.attemptsOf k) d'

variable {s s' s'' : Site} {t u : Trace} {k : DeviceKey} {d d' : Device}

theorem Quiet.tidy (h : s.Quiet s') (htidy : s.Tidy) : s'.Tidy where
  freed := by
    intro c' hc'
    have hmem : c'.bare ∈ s.channels.map Channel.bare := h.channels ▸ List.mem_map_of_mem hc'
    obtain ⟨c, hc, hbare⟩ := List.mem_map.1 hmem
    exact (htidy.freed c hc).of_bare hbare.symm
  linked := by
    intro k d' hd' x hx
    obtain ⟨d, hd, hsenders⟩ := h.senders hd'
    have hlength : s'.channels.length = s.channels.length := by
      simpa using congrArg List.length h.channels
    rw [hlength]
    exact htidy.linked hd x (hsenders ▸ hx)

theorem Quiet.accepting (h : s.Quiet s') :
    s'.channels.map Channel.accepting = s.channels.map Channel.accepting := by
  have hbare : ∀ channels : List Channel,
      (channels.map Channel.bare).map Channel.accepting = channels.map Channel.accepting := by
    intro channels
    rw [List.map_map]
    rfl
  rw [← hbare s'.channels, h.channels, hbare]

theorem Quiet.attempted (h : s.Quiet s') (htidy : s.Tidy) (ht : t.attempts = [])
    (hpublications : ∀ k, t.publications k = []) : Attempted s t s' where
  tidy := h.tidy htidy
  accepting := h.accepting
  device := by
    intro k d' hd'
    obtain ⟨d, hd, hsenders⟩ := h.senders hd'
    exact ⟨d, hd, .silent (hpublications k) (by simp [Trace.attemptsOf, ht]) hsenders⟩

/-- Where no device publishes twice, what devices have done first and then is what they have done
altogether. -/
theorem Attempted.trans (h : Attempted s t s') (h' : Attempted s' u s'')
    (honce : ∀ k, t.publications k = [] ∨ u.publications k = []) : Attempted s (t ++ u) s'' where
  tidy := h'.tidy
  accepting := h'.accepting.trans h.accepting
  device := by
    intro k d'' hd''
    obtain ⟨d', hd', hsecond⟩ := h'.device hd''
    obtain ⟨d, hd, hfirst⟩ := h.device hd'
    refine ⟨d, hd, ?_⟩
    rw [Trace.publications_append, Trace.attemptsOf_append]
    rw [accepts_congr h.accepting] at hsecond
    cases hfirst with
    | silent hpublished hattempts hsenders =>
      cases hsecond with
      | silent hpublished' hattempts' hsenders' =>
        exact .silent (by simp [hpublished, hpublished']) (by simp [hattempts, hattempts'])
          (hsenders'.trans hsenders)
      | tried status hpublished' htried hclosed hsenders' =>
        refine .tried status (by simp [hpublished, hpublished']) ?_ ?_ ?_
        · rw [hattempts, List.nil_append, htried, hsenders]
        · rw [hattempts, List.nil_append]
          exact hclosed
        · rw [hsenders', hsenders]
    | tried status hpublished htried hclosed hsenders =>
      cases hsecond with
      | silent hpublished' hattempts' hsenders' =>
        refine .tried status (by simp [hpublished, hpublished']) ?_ ?_ ?_
        · rw [hattempts', List.append_nil, htried]
        · rw [hattempts', List.append_nil]
          exact hclosed
        · rw [hsenders', hsenders]
      | tried status' hpublished' =>
        rcases honce k with hnone | hnone
        · simp [hnone] at hpublished
        · simp [hnone] at hpublished'

/-! ## New senders -/

/-- A new sender has a number that no sender of its channel had before. -/
theorem issued_le_of_mem_addSenders {keys : List ChannelKey} {x : Sender}
    (hx : x ∈ (s.addSenders keys).2) :
    ∃ c, s.channel? x.channel = some c ∧ c.issued ≤ x.number := by
  induction keys generalizing s with
  | nil => simp [addSenders] at hx
  | cons key rest ih =>
    cases hc : s.channel? key with
    | none =>
      simp only [addSenders, hc] at hx
      exact ih hx
    | some c =>
      simp only [addSenders, hc] at hx
      rcases List.mem_cons.1 hx with rfl | hx
      · exact ⟨c, hc, Nat.le_refl _⟩
      · obtain ⟨c', hc', hle⟩ := ih hx
        have hset : (s.channels.set key c.addSender.1)[x.channel]? = some c' := hc'
        by_cases heq : key = x.channel
        · subst heq
          have hlt := (List.getElem?_eq_some_iff.1 hc).1
          obtain rfl : c.addSender.1 = c' := by simpa [hlt] using hset
          exact ⟨c, hc, Nat.le_of_succ_le hle⟩
        · rw [List.getElem?_set_ne heq] at hset
          exact ⟨c', hset, hle⟩

/-- The new senders differ from each other, also those of one channel. -/
theorem nodup_addSenders (s : Site) (keys : List ChannelKey) : (s.addSenders keys).2.Nodup := by
  induction keys generalizing s with
  | nil => exact List.nodup_nil
  | cons key rest ih =>
    cases hc : s.channel? key with
    | none =>
      simp only [addSenders, hc]
      exact ih s
    | some c =>
      simp only [addSenders, hc]
      refine List.nodup_cons.2 ⟨fun hmem => ?_, ih _⟩
      -- The senders after the first one have greater numbers if they are of the same channel.
      obtain ⟨c', hc', hle⟩ := issued_le_of_mem_addSenders hmem
      have hset : (s.channels.set key c.addSender.1)[key]? = some c' := hc'
      have hlt := (List.getElem?_eq_some_iff.1 hc).1
      obtain rfl : c.addSender.1 = c' := by simpa [hlt] using hset
      exact absurd hle (Nat.not_succ_le_self _)

/-- A new device may have the new senders. -/
theorem Tidy.addDevice (htidy : s.Tidy) (remote : RemoteKey) (keys : List ChannelKey) :
    (((s.addSenders keys).1.addDevice remote (s.addSenders keys).2).1).Tidy where
  freed := ((s.quiet_addSenders keys).tidy htidy).freed
  linked := by
    intro k d hd x hx
    rw [device?_addDevice] at hd
    split at hd
    · obtain rfl := Option.some.inj hd
      obtain ⟨c, hc, -⟩ := issued_le_of_mem_addSenders hx
      have hlength : (s.addSenders keys).1.channels.length = s.channels.length := by
        simpa using congrArg List.length (s.quiet_addSenders keys).channels
      exact hlength ▸ (List.getElem?_eq_some_iff.1 hc).1
    · exact ((s.quiet_addSenders keys).tidy htidy).linked hd x hx

/-! ## Calls -/

section Call

variable {key : DeviceKey} (remote : RemoteKey) (state : Connection)

/-- A device that shows another status tries its senders. -/
theorem attempted_of_new (htidy : s.Tidy) (hd : s.device? key = some d)
    (hnew : d.status ≠ .ofConnection state) :
    Attempted s (d.follow key s.channels state).2.2
      (s.withDevice (d.follow key s.channels state).1 key (d.follow key s.channels state).2.1) := by
  have hoffered : Offered key s.channels d.senders (d.follow key s.channels state).1
      (d.follow key s.channels state).2.1.senders
      (d.follow key s.channels state).2.2.attempts := by
    rw [Device.follow_of_new hnew]
    simpa using offered_offer htidy.freed (htidy.linked hd)
  have hlength : (d.follow key s.channels state).1.length = s.channels.length :=
    Device.length_channels_follow key s.channels d state
  have hattempts : ∀ k, (d.follow key s.channels state).2.2.attemptsOf k =
      if key = k then (d.follow key s.channels state).2.2.attempts else [] := by
    intro k
    split
    · next heq =>
      exact List.filter_eq_self.2 fun x hx => by simpa [← heq] using hoffered.device x hx
    · next hne =>
      exact List.filter_eq_nil_iff.2 fun x hx => by simpa [hoffered.device x hx] using hne
  constructor
  · refine ⟨hoffered.freed, fun {k d'} hd' x hx => ?_⟩
    change x.channel < (d.follow key s.channels state).1.length
    rw [hlength]
    rw [device?_withDevice hd] at hd'
    split at hd'
    · obtain rfl := Option.some.inj hd'
      rw [hoffered.kept] at hx
      exact htidy.linked hd x (List.mem_filter.1 hx).1
    · exact htidy.linked hd' x hx
  · exact hoffered.accepting
  · intro k d' hd'
    rw [device?_withDevice hd] at hd'
    rw [hattempts, Device.publications_follow]
    split at hd'
    · next heq =>
      obtain rfl := Option.some.inj hd'
      subst heq
      rw [if_pos rfl, if_pos ⟨rfl, hnew⟩]
      exact ⟨d, hd, .tried (.ofConnection state) rfl hoffered.tried hoffered.closed hoffered.kept⟩
    · next hne =>
      rw [if_neg hne, if_neg fun h => hne h.1]
      exact ⟨d', hd', .silent rfl rfl rfl⟩

theorem attempted_follow (htidy : s.Tidy) (hd : s.device? key = some d) :
    Attempted s (d.follow key s.channels state).2.2
      (s.withDevice (d.follow key s.channels state).1 key (d.follow key s.channels state).2.1) := by
  by_cases hshown : d.status = .ofConnection state
  · rw [Device.follow_of_shown hshown]
    have hquiet : s.Quiet
        (s.withDevice s.channels key { d with model := (d.model.follow state).1 }) :=
      quiet_withDevice hd rfl
    exact hquiet.attempted htidy (Trace.attempts_map_logged _) (Trace.publications_map_logged · _)
  · exact attempted_of_new state htidy hd hshown

theorem Attempted.called (h : Attempted s t s') (id : ObserverId) (observer : Observer) :
    Attempted s (.called remote id observer state :: t) s' :=
  ⟨h.tidy, h.accepting, h.device⟩

theorem attempted_call (htidy : s.Tidy) (id : ObserverId) (observer : Observer) (upset : Bool) :
    Attempted s (s.call remote id observer state upset).trace
      (s.call remote id observer state upset).site := by
  have hnothing : Attempted s [.called remote id observer state] s :=
    (Quiet.refl s).attempted htidy rfl fun _ => rfl
  cases observer with
  | recorder => exact hnothing
  | device key =>
    cases hd : s.device? key with
    | none =>
      simp only [call, hd]
      exact hnothing
    | some d =>
      rw [call_device _ _ _ hd]
      exact (attempted_follow state htidy hd).called remote state id _

/-- After a device has been told a state, it has nothing more to publish when it is told that state
again. -/
theorem publications_call_or_callAll (e : ObserverId × Observer) (upset : List ObserverId)
    (rest : List (ObserverId × Observer)) (k : DeviceKey) :
    (s.call remote e.1 e.2 state (e.1 ∈ upset)).trace.publications k = [] ∨
      ((s.call remote e.1 e.2 state (e.1 ∈ upset)).site.callAll remote state upset
        rest).trace.publications k = [] := by
  by_cases he : e.2 = .device k
  · cases hd : s.device? k with
    | none =>
      left
      simp [he, call, hd]
    | some d =>
      obtain ⟨d', hd', htold⟩ := exists_device?_call remote state e.1 (decide (e.1 ∈ upset)) hd
      rw [← he] at hd'
      exact Or.inr (publications_callAll_of_shown remote state upset rest hd' htold.status)
  · exact Or.inl (prompted_call _ _ _ _ _ k (by rw [deliveries_call, if_neg he]))

theorem attempted_callAll (htidy : s.Tidy) (upset : List ObserverId)
    (observers : List (ObserverId × Observer)) :
    Attempted s (s.callAll remote state upset observers).trace
      (s.callAll remote state upset observers).site := by
  induction observers generalizing s with
  | nil => exact (Quiet.refl s).attempted htidy rfl fun _ => rfl
  | cons e rest ih =>
    have hfirst := attempted_call remote state htidy e.1 e.2 (decide (e.1 ∈ upset))
    simp only [callAll]
    split
    · exact hfirst
    · exact hfirst.trans (ih hfirst.tidy) (publications_call_or_callAll remote state e upset rest)

end Call

/-! ## Operations -/

section Operations

variable {r : Remote} (state : Connection) (upset : List ObserverId) (key : RemoteKey)

theorem Attempted.logged (h : Attempted s t s') (record : Log.Record) :
    Attempted s (.logged record :: t) s' :=
  ⟨h.tidy, h.accepting, h.device⟩

/-- What nobody notices may come before or after. -/
theorem Attempted.quiet (h : Attempted s' t s'') {s₀ s₁ : Site} (htidy : s₀.Tidy)
    (hbefore : s₀.Quiet s') (hafter : s''.Quiet s₁) : Attempted s₀ t s₁ := by
  have hfirst : Attempted s₀ [] s' := hbefore.attempted htidy rfl fun _ => rfl
  have hlast : Attempted s'' [] s₁ := hafter.attempted h.tidy rfl fun _ => rfl
  have hall := (hfirst.trans h fun _ => Or.inl rfl).trans hlast fun _ => Or.inr rfl
  simpa using hall

theorem attempted_setState (htidy : s.Tidy) :
    Attempted s (s.setState key state upset).trace (s.setState key state upset).site := by
  have hnothing : Attempted s [] s := (Quiet.refl s).attempted htidy rfl fun _ => rfl
  cases hr : s.remote? key with
  | none =>
    rw [setState_of_dangling hr]
    exact hnothing
  | some r =>
    by_cases hp : r.poisoned = true
    · rw [setState_of_poisoned hr hp]
      exact hnothing
    · have hp : r.poisoned = false := by simpa using hp
      by_cases hs : r.state = state
      · rw [setState_of_eq hr hp hs]
        exact hnothing.logged _
      · have hmarked : s.Quiet (s.modifyRemote key ({ · with state })) := quiet_modifyRemote _ _ _
        have hcalls := attempted_callAll key state (hmarked.tidy htidy) upset r.observers
        rw [trace_setState state upset hr hp hs]
        apply Attempted.logged
        simp only [setState, hr, hp, hs, Bool.false_eq_true, if_false]
        split
        · exact hcalls.quiet htidy hmarked (quiet_modifyRemote _ _ _)
        · exact hcalls.quiet htidy hmarked (Quiet.refl _)

theorem Sound.attempted_start (h : s.Sound) (htidy : s.Tidy) (k : DeviceKey) :
    Attempted s (s.start k).trace (s.start k).site := by
  have hnothing : Attempted s [] s := (Quiet.refl s).attempted htidy rfl fun _ => rfl
  cases hd : s.device? k with
  | none =>
    rw [start_of_dangling hd]
    exact hnothing
  | some d =>
    obtain ⟨r, hr, -⟩ := h.attached hd
    by_cases hp : r.poisoned = true
    · rw [start_of_poisoned hd hr hp]
      exact hnothing
    · have hp : r.poisoned = false := by simpa using hp
      by_cases hs : d.started = true
      · rw [start_of_started hd hr hp hs]
        exact hnothing
      · have hs : d.started = false := by simpa using hs
        have hmarked : s.Quiet (s.modifyDevice k ({ · with started := true })) :=
          quiet_modifyDevice s k fun _ => rfl
        have hcall : Attempted (s.modifyDevice k ({ · with started := true }))
            (s.startCall k d r).trace (s.startCall k d r).site :=
          attempted_call _ _ (hmarked.tidy htidy) _ _ _
        have hkept : (s.startCall k d r).site.Quiet
            (((s.startCall k d r).site.modifyRemote d.remote (·.gain (.device k))).modifyDevice k
              ({ · with subscription := some r.nextObserver })) :=
          (quiet_modifyRemote _ _ _).trans (quiet_modifyDevice _ _ fun _ => rfl)
        have hgained : Attempted
            (((s.startCall k d r).site.modifyRemote d.remote (·.gain (.device k))).modifyDevice k
              ({ · with subscription := some r.nextObserver }))
            [.logged (.observerGained r.name r.nextObserver)] _ :=
          (Quiet.refl _).attempted (hkept.tidy hcall.tidy) rfl fun _ => rfl
        rw [start_of_unstarted hd hr hp hs (h.subscription_eq_none hd hs)]
        apply Attempted.logged
        exact (hcall.quiet htidy hmarked hkept).trans hgained fun _ => Or.inr rfl

end Operations

end Site

end DeviceTwin
