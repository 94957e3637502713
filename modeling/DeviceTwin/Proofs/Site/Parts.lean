import DeviceTwin.Proofs.Site.Attempts

/-!
# Parts of a site

A part is a choice of remotes, devices and channels.  It is closed if nothing in it leads outside:
the devices that observe its remotes are among its devices, and these publish to its channels only.
What is then done to a remote or to a device of the part needs nothing else and touches nothing
else.  `Site.Local` says both at once, of two sites that agree on the part: the same becomes of the
part in either, with the same trace, and neither changes elsewhere.  There is one lemma for every
operation.
-/

namespace DeviceTwin

/-- Some of the remotes, devices and channels of a site. -/
structure Part where
  remotes : RemoteKey → Prop
  devices : DeviceKey → Prop
  channels : ChannelKey → Prop

namespace Site

/-- What a part of a site leads to belongs to it. -/
structure Closed (P : Part) (s : Site) : Prop where
  observers : ∀ {key r id k}, P.remotes key → s.remote? key = some r →
    (id, .device k) ∈ r.observers → P.devices k
  remote : ∀ {k d}, P.devices k → s.device? k = some d → P.remotes d.remote
  senders : ∀ {k d}, P.devices k → s.device? k = some d → ∀ x ∈ d.senders, P.channels x.channel

/-- Two sites agree on a part, the devices of which have been made in both. -/
structure Agree (P : Part) (s s' : Site) : Prop where
  remote? : ∀ {key}, P.remotes key → s'.remote? key = s.remote? key
  device? : ∀ {k}, P.devices k → s'.device? k = s.device? k
  channel? : ∀ {ch}, P.channels ch → s'.channel? ch = s.channel? ch
  made : ∀ {k}, P.devices k → k < s.devices.length ∧ k < s'.devices.length

/-- Between two moments, nothing has happened outside a part but that devices were made. -/
structure Spares (P : Part) (s : Site) (t : Trace) (s' : Site) : Prop where
  remote? : ∀ {key}, ¬ P.remotes key → s'.remote? key = s.remote? key
  device? : ∀ {k}, k < s.devices.length → ¬ P.devices k → s'.device? k = s.device? k
  channel? : ∀ {ch}, ¬ P.channels ch → s'.channel? ch = s.channel? ch
  calls : ∀ {key}, ¬ P.remotes key → t.callsOf key = []
  attempts : ∀ {ch}, ¬ P.channels ch → t.attemptsTo ch = []
  made : s.devices.length ≤ s'.devices.length

/-- The same has been done to a part in two sites, and nothing else. -/
structure Local (P : Part) (s s' s₁ s₁' : Site) (t t' : Trace) : Prop where
  trace : t' = t
  closed : s₁.Closed P
  agree : s₁.Agree P s₁'
  spares : s.Spares P t s₁
  spares' : s'.Spares P t' s₁'

variable {P : Part} {s s' s₁ s₁' s₂ s₂' : Site} {t t' u u' : Trace} {key : RemoteKey}
  {k : DeviceKey} {ch : ChannelKey}

/-! ## One thing after the other -/

theorem Spares.trans (h : s.Spares P t s₁) (h' : s₁.Spares P u s₂) : s.Spares P (t ++ u) s₂ where
  remote? hkey := (h'.remote? hkey).trans (h.remote? hkey)
  device? hlt hk := (h'.device? (Nat.lt_of_lt_of_le hlt h.made) hk).trans (h.device? hlt hk)
  channel? hch := (h'.channel? hch).trans (h.channel? hch)
  calls hkey := by rw [Trace.callsOf_append, h.calls hkey, h'.calls hkey, List.append_nil]
  attempts hch := by rw [Trace.attemptsTo_append, h.attempts hch, h'.attempts hch, List.append_nil]
  made := Nat.le_trans h.made h'.made

/-! ## Changing one thing

What is changed belongs to the part, so that nothing else is. -/

theorem spares_modifyRemote (s : Site) (hkey : P.remotes key) (f : Remote → Remote) :
    s.Spares P [] (s.modifyRemote key f) := by
  refine ⟨fun {other} hother => ?_, fun _ _ => rfl, fun _ => rfl, fun _ => rfl, fun _ => rfl,
    Nat.le_refl _⟩
  have hne : key ≠ other := fun heq => hother (heq ▸ hkey)
  simp [hne]

theorem spares_modifyDevice (s : Site) (hk : P.devices k) (f : Device → Device) :
    s.Spares P [] (s.modifyDevice k f) := by
  refine ⟨fun _ => rfl, fun {other} _ hother => ?_, fun _ => rfl, fun _ => rfl, fun _ => rfl,
    by simp [Site.modifyDevice]⟩
  have hne : k ≠ other := fun heq => hother (heq ▸ hk)
  simp [hne]

theorem spares_modifyChannel (s : Site) (hch : P.channels ch) (f : Channel → Channel) :
    s.Spares P [] (s.modifyChannel ch f) := by
  refine ⟨fun _ => rfl, fun _ _ => rfl, fun {other} hother => ?_, fun _ => rfl, fun _ => rfl,
    Nat.le_refl _⟩
  have hne : ch ≠ other := fun heq => hother (heq ▸ hch)
  simp [hne]

theorem modifyChannel_eq_set {c : Channel} (hget : s.channel? ch = some c) (c₁ : Channel) :
    s.modifyChannel ch (fun _ => c₁) = { s with channels := s.channels.set ch c₁ } := by
  simp only [Site.modifyChannel]
  congr 1
  apply List.ext_getElem?
  intro i
  by_cases heq : ch = i
  · subst heq
    have hlt := (List.getElem?_eq_some_iff.1 hget).1
    simp [hlt]
  · simp [heq]

theorem spares_withDevice {d : Device} (hk : P.devices k) (hd : s.device? k = some d)
    (d₁ : Device) {channels : List Channel}
    (hchannels : ∀ {ch}, ¬ P.channels ch → channels[ch]? = s.channel? ch) :
    s.Spares P [] (s.withDevice channels k d₁) := by
  refine ⟨fun _ => rfl, fun {other} _ hother => ?_, hchannels, fun _ => rfl, fun _ => rfl,
    by simp [Site.withDevice]⟩
  have hne : k ≠ other := fun heq => hother (heq ▸ hk)
  rw [device?_withDevice hd, if_neg hne]

theorem spares_addDevice (s : Site) (remote : RemoteKey) (senders : List Sender) :
    s.Spares P [] (s.addDevice remote senders).1 := by
  refine ⟨fun _ => rfl, fun {other} hlt _ => ?_, fun _ => rfl, fun _ => rfl, fun _ => rfl,
    by simp [Site.addDevice]⟩
  rw [device?_addDevice, if_neg (Nat.ne_of_lt hlt)]

theorem device?_leave (s : Site) (k other : DeviceKey) :
    ({ s with devices := s.devices.set k none } : Site).device? other =
      if k = other then none else s.device? other := by
  by_cases heq : k = other
  · subst heq
    by_cases hlt : k < s.devices.length <;> simp [Site.device?, hlt]
  · simp [Site.device?, heq]

theorem spares_leave (s : Site) (hk : P.devices k) :
    s.Spares P [] { s with devices := s.devices.set k none } := by
  refine ⟨fun _ => rfl, fun {other} _ hother => ?_, fun _ => rfl, fun _ => rfl, fun _ => rfl,
    by simp⟩
  have hne : k ≠ other := fun heq => hother (heq ▸ hk)
  rw [device?_leave, if_neg hne]

/-! ## The same in two sites -/

theorem Local.trans (h : Local P s s' s₁ s₁' t t') (h' : Local P s₁ s₁' s₂ s₂' u u') :
    Local P s s' s₂ s₂' (t ++ u) (t' ++ u') where
  trace := by rw [h.trace, h'.trace]
  closed := h'.closed
  agree := h'.agree
  spares := h.spares.trans h'.spares
  spares' := h.spares'.trans h'.spares'

section Agreement

variable (h : s.Agree P s') (hc : s.Closed P)

include h hc

/-- What is only said about a part. -/
theorem Agree.said (hcalls : ∀ {key}, ¬ P.remotes key → t.callsOf key = [])
    (hattempts : ∀ {ch}, ¬ P.channels ch → t.attemptsTo ch = []) : Local P s s' s s' t t where
  trace := rfl
  closed := hc
  agree := h
  spares := ⟨fun _ => rfl, fun _ _ => rfl, fun _ => rfl, hcalls, hattempts, Nat.le_refl _⟩
  spares' := ⟨fun _ => rfl, fun _ _ => rfl, fun _ => rfl, hcalls, hattempts, Nat.le_refl _⟩

theorem Agree.logged (records : List Log.Record) :
    Local P s s' s s' (records.map .logged) (records.map .logged) :=
  h.said hc (fun _ => Trace.callsOf_of_calls_eq_nil (Trace.calls_map_logged _) _)
    fun _ => by simp [Trace.attemptsTo]

theorem Agree.nothing : Local P s s' s s' [] [] := h.logged hc []

theorem Agree.called (hkey : P.remotes key) (id : ObserverId) (observer : Observer)
    (state : Connection) : Local P s s' s s' [.called key id observer state]
      [.called key id observer state] := by
  apply h.said hc
  · intro other hother
    have hne : key ≠ other := fun heq => hother (heq ▸ hkey)
    simp [Trace.callsOf, hne]
  · intro ch _
    simp [Trace.attemptsTo]

/-- A remote of the part may get observers of the part. -/
theorem Agree.modifyRemote (hkey : P.remotes key) {f : Remote → Remote}
    (hobservers : ∀ r, s.remote? key = some r → ∀ id k, (id, .device k) ∈ (f r).observers →
      P.devices k) :
    Local P s s' (s.modifyRemote key f) (s'.modifyRemote key f) [] [] := by
  refine ⟨rfl, ⟨?_, hc.remote, hc.senders⟩, ⟨?_, h.device?, h.channel?, h.made⟩,
    spares_modifyRemote s hkey f, spares_modifyRemote s' hkey f⟩
  · intro other r id k hother hr hmem
    rw [remote?_modifyRemote] at hr
    split at hr
    · next heq =>
      subst heq
      obtain ⟨r₀, hr₀, rfl⟩ := Option.map_eq_some_iff.1 hr
      exact hobservers r₀ hr₀ id k hmem
    · exact hc.observers hother hr hmem
  · intro other hother
    rw [remote?_modifyRemote, remote?_modifyRemote, h.remote? hother]

theorem Agree.modifyDevice (hk : P.devices k) {f : Device → Device}
    (hf : ∀ d, (f d).remote = d.remote ∧ (f d).senders = d.senders) :
    Local P s s' (s.modifyDevice k f) (s'.modifyDevice k f) [] [] := by
  have hfrom : ∀ {other d}, (s.modifyDevice k f).device? other = some d →
      ∃ d₀, s.device? other = some d₀ ∧ d.remote = d₀.remote ∧ d.senders = d₀.senders := by
    intro other d hd
    rw [device?_modifyDevice] at hd
    split at hd
    · obtain ⟨d₀, hd₀, rfl⟩ := Option.map_eq_some_iff.1 hd
      exact ⟨d₀, hd₀, hf d₀⟩
    · exact ⟨d, hd, rfl, rfl⟩
  refine ⟨rfl, ⟨hc.observers, ?_, ?_⟩, ⟨h.remote?, ?_, h.channel?, ?_⟩,
    spares_modifyDevice s hk f, spares_modifyDevice s' hk f⟩
  · intro other d hother hd
    obtain ⟨d₀, hd₀, hremote, -⟩ := hfrom hd
    exact hremote ▸ hc.remote hother hd₀
  · intro other d hother hd x hx
    obtain ⟨d₀, hd₀, -, hsenders⟩ := hfrom hd
    exact hc.senders hother hd₀ x (hsenders ▸ hx)
  · intro other hother
    rw [device?_modifyDevice, device?_modifyDevice, h.device? hother]
  · intro other hother
    simpa [Site.modifyDevice] using h.made hother

theorem Agree.modifyChannel (hch : P.channels ch) (f : Channel → Channel) :
    Local P s s' (s.modifyChannel ch f) (s'.modifyChannel ch f) [] [] := by
  refine ⟨rfl, ⟨hc.observers, hc.remote, hc.senders⟩, ⟨h.remote?, h.device?, ?_, h.made⟩,
    spares_modifyChannel s hch f, spares_modifyChannel s' hch f⟩
  intro other hother
  rw [channel?_modifyChannel, channel?_modifyChannel, h.channel? hother]

/-- A device of the part shows something else, and has at most the senders that it had. -/
theorem Agree.withDevice (d₁ : Device) (channels channels' : List Channel) {d : Device}
    (hk : P.devices k) (hd : s.device? k = some d) (hremote : d₁.remote = d.remote)
    (hsenders : ∀ x ∈ d₁.senders, x ∈ d.senders)
    (hsame : ∀ {ch}, P.channels ch → channels'[ch]? = channels[ch]?)
    (hothers : ∀ {ch}, ¬ P.channels ch →
      channels[ch]? = s.channel? ch ∧ channels'[ch]? = s'.channel? ch) :
    Local P s s' (s.withDevice channels k d₁) (s'.withDevice channels' k d₁) [] [] := by
  have hd' : s'.device? k = some d := (h.device? hk).trans hd
  refine ⟨rfl, ⟨hc.observers, ?_, ?_⟩, ⟨h.remote?, ?_, hsame, ?_⟩,
    spares_withDevice hk hd d₁ fun hch => (hothers hch).1,
    spares_withDevice hk hd' d₁ fun hch => (hothers hch).2⟩
  · intro other d₂ hother hd₂
    rw [device?_withDevice hd] at hd₂
    split at hd₂
    · obtain rfl := Option.some.inj hd₂
      exact hremote ▸ hc.remote hk hd
    · exact hc.remote hother hd₂
  · intro other d₂ hother hd₂ x hx
    rw [device?_withDevice hd] at hd₂
    split at hd₂
    · obtain rfl := Option.some.inj hd₂
      exact hc.senders hk hd x (hsenders x hx)
    · exact hc.senders hother hd₂ x hx
  · intro other hother
    rw [device?_withDevice hd, device?_withDevice hd', h.device? hother]
  · intro other hother
    simpa [Site.withDevice] using h.made hother

end Agreement

/-! ## Telling observers -/

section Offer

variable (key : DeviceKey) (status : Status) {channels channels' : List Channel}
  {senders : List Sender}

/-- What is handed to senders of the part depends on the channels of the part only. -/
theorem offer_congr (hsame : ∀ {ch}, P.channels ch → channels'[ch]? = channels[ch]?)
    (hsenders : ∀ x ∈ senders, P.channels x.channel) :
    (offer key status channels' senders).2 = (offer key status channels senders).2 ∧
      ∀ {ch}, P.channels ch → (offer key status channels' senders).1[ch]? =
        (offer key status channels senders).1[ch]? := by
  induction senders generalizing channels channels' with
  | nil => exact ⟨rfl, hsame⟩
  | cons sender rest ih =>
    obtain ⟨hsender, hrest⟩ := List.forall_mem_cons.1 hsenders
    cases hc : channels[sender.channel]? with
    | none =>
      rw [offer_cons_of_none hc, offer_cons_of_none ((hsame hsender).trans hc)]
      exact ih hsame hrest
    | some c =>
      have hc' := (hsame hsender).trans hc
      have hafter : ∀ {ch}, P.channels ch →
          (channels'.set sender.channel (c.offered sender.number status))[ch]? =
            (channels.set sender.channel (c.offered sender.number status))[ch]? := by
        intro ch hch
        by_cases heq : sender.channel = ch
        · subst heq
          rw [List.getElem?_set_self (List.getElem?_eq_some_iff.1 hc).1,
            List.getElem?_set_self (List.getElem?_eq_some_iff.1 hc').1]
        · rw [List.getElem?_set_ne heq, List.getElem?_set_ne heq, hsame hch]
      obtain ⟨hothers, hchannels⟩ := ih hafter hrest
      rw [offer_cons hc, offer_cons hc']
      dsimp only
      rw [hothers]
      exact ⟨rfl, hchannels⟩

/-- What is handed to senders of the part leaves other channels alone. -/
theorem offer_of_not_mem (hsenders : ∀ x ∈ senders, P.channels x.channel)
    (hch : ¬ P.channels ch) :
    (offer key status channels senders).1[ch]? = channels[ch]? ∧
      (offer key status channels senders).2.2.attemptsTo ch = [] := by
  have hnone : senders.filter (·.channel = ch) = [] := by
    rw [List.filter_eq_nil_iff]
    intro x hx
    have hne : x.channel ≠ ch := fun heq => hch (heq ▸ hsenders x hx)
    simpa using hne
  obtain ⟨hchannel, hoffers⟩ := offer_of_none key status channels hnone
  rw [Trace.offers_eq_map, List.map_eq_nil_iff] at hoffers
  exact ⟨hchannel, hoffers⟩

end Offer

section Telling

variable (h : s.Agree P s') (hc : s.Closed P)

include h hc

theorem Agree.follow {d : Device} (hk : P.devices k) (hd : s.device? k = some d)
    (state : Connection) :
    Local P s s'
      (s.withDevice (d.follow k s.channels state).1 k (d.follow k s.channels state).2.1)
      (s'.withDevice (d.follow k s'.channels state).1 k (d.follow k s'.channels state).2.1)
      (d.follow k s.channels state).2.2 (d.follow k s'.channels state).2.2 := by
  by_cases hshown : d.status = .ofConnection state
  · rw [Device.follow_of_shown hshown, Device.follow_of_shown hshown]
    have hmodel := h.withDevice hc { d with model := (d.model.follow state).1 } s.channels
      s'.channels hk hd rfl (fun _ => id) h.channel? fun _ => ⟨rfl, rfl⟩
    simpa using hmodel.trans (hmodel.agree.logged hmodel.closed (d.model.follow state).2)
  · -- The senders lead to channels of the part, which take the status alike in both sites.
    have hsenders := hc.senders hk hd
    obtain ⟨hsame, hchannels⟩ := offer_congr k (.ofConnection state) h.channel? hsenders
    have hsublist := kept_offer_sublist k (.ofConnection state) s.channels d.senders
    have hothers : ∀ (channels : List Channel) {ch}, ¬ P.channels ch →
        (offer k (.ofConnection state) channels d.senders).1[ch]? = channels[ch]? ∧
          (offer k (.ofConnection state) channels d.senders).2.2.attemptsTo ch = [] :=
      fun _ _ hch => offer_of_not_mem k (.ofConnection state) hsenders hch
    rw [Device.follow_of_new hshown, Device.follow_of_new hshown]
    dsimp only
    rw [hsame]
    have hshift := h.withDevice hc
      { d with
        model := (d.model.follow state).1
        status := .ofConnection state
        senders := (offer k (.ofConnection state) s.channels d.senders).2.1 }
      _ _ hk hd rfl (fun x hx => hsublist.subset hx) hchannels
      fun hch => ⟨(hothers s.channels hch).1, (hothers s'.channels hch).1⟩
    have hsaid := hshift.agree.said hshift.closed (t := (d.model.follow state).2.map .logged ++
        .logged (.statusChanged d.status (.ofConnection state)) ::
          .published k (.ofConnection state) ::
            (offer k (.ofConnection state) s.channels d.senders).2.2)
      (fun _ => Trace.callsOf_of_calls_eq_nil (by simp [calls_offer]) _) fun {ch} hch => by
        have hnone := (hothers s.channels hch).2
        simp only [Trace.attemptsTo] at hnone ⊢
        simpa using hnone
    exact hshift.trans hsaid

theorem Agree.call (hkey : P.remotes key) (observer : Observer)
    (hobserver : ∀ k, observer = .device k → P.devices k) (id : ObserverId) (state : Connection)
    (upset : Bool) :
    Local P s s' (s.call key id observer state upset).site
      (s'.call key id observer state upset).site
      (s.call key id observer state upset).trace (s'.call key id observer state upset).trace := by
  cases observer with
  | recorder => exact h.called hc hkey id _ state
  | device k =>
    have hk := hobserver k rfl
    have hcalled := h.called hc hkey id (.device k) state
    cases hd : s.device? k with
    | none =>
      have hd' : s'.device? k = none := (h.device? hk).trans hd
      simp only [Site.call, hd, hd']
      exact hcalled
    | some d =>
      rw [call_device _ _ _ hd, call_device _ _ _ ((h.device? hk).trans hd)]
      exact hcalled.trans (h.follow hc hk hd state)

theorem Agree.callAll (hkey : P.remotes key) {observers : List (ObserverId × Observer)}
    (hobservers : ∀ id k, (id, .device k) ∈ observers → P.devices k) (state : Connection)
    (upset : List ObserverId) :
    Local P s s' (s.callAll key state upset observers).site
      (s'.callAll key state upset observers).site (s.callAll key state upset observers).trace
      (s'.callAll key state upset observers).trace := by
  induction observers generalizing s s' with
  | nil => exact h.nothing hc
  | cons e rest ih =>
    have hfirst := h.call hc hkey e.2
      (fun k heq => hobservers e.1 k (by simp [← heq])) e.1 state (decide (e.1 ∈ upset))
    simp only [Site.callAll, failed_call]
    split
    · exact hfirst
    · exact hfirst.trans (ih hfirst.agree hfirst.closed
        fun id k hmem => hobservers id k (List.mem_cons_of_mem e hmem))

end Telling

/-! ## Operations -/

section Operations

variable (h : s.Agree P s') (hc : s.Closed P)

include h

theorem Agree.inspect {α : Type} (hkey : P.remotes key) (f : Remote → α) :
    (s'.inspect key f).result = (s.inspect key f).result := by
  simp only [Site.inspect, h.remote? hkey]
  cases s.remote? key with
  | none => rfl
  | some r =>
    dsimp only
    split <;> rfl

include hc

theorem Agree.setState (hkey : P.remotes key) (state : Connection) (upset : List ObserverId) :
    Local P s s' (s.setState key state upset).site (s'.setState key state upset).site
        (s.setState key state upset).trace (s'.setState key state upset).trace ∧
      (s'.setState key state upset).result = (s.setState key state upset).result := by
  have hremote := h.remote? hkey
  cases hr : s.remote? key with
  | none =>
    rw [setState_of_dangling hr, setState_of_dangling (hremote.trans hr)]
    exact ⟨h.nothing hc, rfl⟩
  | some r =>
    by_cases hp : r.poisoned = true
    · rw [setState_of_poisoned hr hp, setState_of_poisoned (hremote.trans hr) hp]
      exact ⟨h.nothing hc, rfl⟩
    · have hp : r.poisoned = false := by simpa using hp
      by_cases hs : r.state = state
      · rw [setState_of_eq hr hp hs, setState_of_eq (hremote.trans hr) hp hs]
        exact ⟨h.logged hc [.remoteUnchanged r.name state], rfl⟩
      · have hmarked := h.modifyRemote hc hkey (f := ({ · with state }))
          fun r hr id k hmem => hc.observers hkey hr hmem
        have hcalls := hmarked.agree.callAll hmarked.closed hkey
          (fun id k hmem => hc.observers hkey hr hmem) state upset
        have hall := (h.logged hc [.remoteChanged r.name state]).trans (hmarked.trans hcalls)
        have hpoisoned := hcalls.agree.modifyRemote hcalls.closed hkey
          (f := ({ · with poisoned := true })) fun r hr id k hmem =>
            hcalls.closed.observers hkey hr hmem
        -- Whether an observer fails depends on the observers alone, so that both remotes are
        -- poisoned or neither is.
        simp only [Site.setState, hr, hremote, hp, hs, Bool.false_eq_true, if_false,
          failed_callAll]
        split
        · exact ⟨by simpa using hall.trans hpoisoned, rfl⟩
        · exact ⟨by simpa using hall, rfl⟩

theorem Agree.subscribe_recorder (hkey : P.remotes key) (label : Text)
    (failsOn : Option Connection) :
    Local P s s' (s.subscribe key (.recorder label failsOn)).site
        (s'.subscribe key (.recorder label failsOn)).site
        (s.subscribe key (.recorder label failsOn)).trace
        (s'.subscribe key (.recorder label failsOn)).trace ∧
      (s'.subscribe key (.recorder label failsOn)).result =
        (s.subscribe key (.recorder label failsOn)).result := by
  have hremote := h.remote? hkey
  cases hr : s.remote? key with
  | none =>
    rw [subscribe_of_dangling hr, subscribe_of_dangling (hremote.trans hr)]
    exact ⟨h.nothing hc, rfl⟩
  | some r =>
    by_cases hp : r.poisoned = true
    · rw [subscribe_of_poisoned hr hp, subscribe_of_poisoned (hremote.trans hr) hp]
      exact ⟨h.nothing hc, rfl⟩
    · have hp : r.poisoned = false := by simpa using hp
      have hcalled := h.called hc hkey r.nextObserver (.recorder label failsOn) r.state
      by_cases hf : failsOn = some r.state
      · rw [subscribe_recorder_of_fails hr hp hf,
          subscribe_recorder_of_fails (hremote.trans hr) hp hf]
        have hpoisoned := h.modifyRemote hc hkey (f := ({ · with poisoned := true }))
          fun r hr id k hmem => hc.observers hkey hr hmem
        exact ⟨hcalled.trans hpoisoned, rfl⟩
      · rw [Site.subscribe_recorder hr hp hf, Site.subscribe_recorder (hremote.trans hr) hp hf]
        have hgained := h.modifyRemote hc hkey (f := (·.gain (.recorder label failsOn)))
          fun r hr id k hmem => hc.observers hkey hr (by simpa [Remote.gain] using hmem)
        have hlogged := hgained.agree.logged hgained.closed
          [.observerGained r.name r.nextObserver]
        exact ⟨hcalled.trans (hgained.trans hlogged), rfl⟩

theorem Agree.unsubscribe (hkey : P.remotes key) (id : ObserverId) :
    Local P s s' (s.unsubscribe key id).1 (s'.unsubscribe key id).1 (s.unsubscribe key id).2
      (s'.unsubscribe key id).2 := by
  have hremote := h.remote? hkey
  cases hr : s.remote? key with
  | none =>
    have hr' := hremote.trans hr
    simp only [Site.unsubscribe, hr, hr']
    exact h.nothing hc
  | some r =>
    rw [unsubscribe_of_some hr, unsubscribe_of_some (hremote.trans hr)]
    have hlost := h.modifyRemote hc hkey (f := (·.lose id)) fun r hr i k hmem =>
      hc.observers hkey hr (List.mem_filter.1 hmem).1
    exact hlost.trans (hlost.agree.logged hlost.closed [.observerLost r.name id])

/-- A device of the part is started: it is told the state of its remote and observes it. -/
theorem Agree.start_of_unstarted {d : Device} {r : Remote} (hk : P.devices k)
    (hd : s.device? k = some d) (hr : s.remote? d.remote = some r) (hp : r.poisoned = false)
    (hs : d.started = false) (hsub : d.subscription = none) :
    Local P s s' (s.start k).site (s'.start k).site (s.start k).trace (s'.start k).trace ∧
      (s'.start k).result = (s.start k).result := by
  have hkey := hc.remote hk hd
  have hr' := (h.remote? hkey).trans hr
  have hmarked := h.modifyDevice hc hk (f := ({ · with started := true })) fun _ => ⟨rfl, rfl⟩
  have hcall := hmarked.agree.call hmarked.closed hkey (.device k)
    (fun k' heq => Observer.device.inj heq ▸ hk) r.nextObserver r.state false
  have hgained := hcall.agree.modifyRemote hcall.closed hkey (f := (·.gain (.device k)))
    fun r₀ hr₀ id k' hmem => by
      rcases List.mem_append.1 hmem with hold | hnew
      · exact hcall.closed.observers hkey hr₀ hold
      · obtain ⟨-, rfl⟩ : id = r₀.nextObserver ∧ k' = k := by simpa using hnew
        exact hk
  have hkept := hgained.agree.modifyDevice hgained.closed hk
    (f := ({ · with subscription := some r.nextObserver })) fun _ => ⟨rfl, rfl⟩
  have hlogged := hkept.agree.logged hkept.closed [.observerGained r.name r.nextObserver]
  have hall := (h.logged hc [.deviceStarting r.name]).trans
    (hmarked.trans (hcall.trans (hgained.trans (hkept.trans hlogged))))
  rw [Site.start_of_unstarted hd hr hp hs hsub,
    Site.start_of_unstarted ((h.device? hk).trans hd) hr' hp hs hsub]
  exact ⟨by simpa [startCall] using hall, rfl⟩

theorem Agree.start (hsound : s.Sound) (hk : P.devices k) :
    Local P s s' (s.start k).site (s'.start k).site (s.start k).trace (s'.start k).trace ∧
      (s'.start k).result = (s.start k).result := by
  have hdevice := h.device? hk
  cases hd : s.device? k with
  | none =>
    rw [start_of_dangling hd, start_of_dangling (hdevice.trans hd)]
    exact ⟨h.nothing hc, rfl⟩
  | some d =>
    obtain ⟨r, hr, -⟩ := hsound.attached hd
    have hr' := (h.remote? (hc.remote hk hd)).trans hr
    by_cases hp : r.poisoned = true
    · rw [start_of_poisoned hd hr hp, start_of_poisoned (hdevice.trans hd) hr' hp]
      exact ⟨h.nothing hc, rfl⟩
    · have hp : r.poisoned = false := by simpa using hp
      by_cases hs : d.started = true
      · rw [start_of_started hd hr hp hs, start_of_started (hdevice.trans hd) hr' hp hs]
        exact ⟨h.nothing hc, rfl⟩
      · have hs : d.started = false := by simpa using hs
        exact h.start_of_unstarted hc hk hd hr hp hs (hsound.subscription_eq_none hd hs)

theorem Agree.dropSenders {senders : List Sender} (hsenders : ∀ x ∈ senders, P.channels x.channel) :
    Local P s s' (s.dropSenders senders) (s'.dropSenders senders) [] [] := by
  induction senders generalizing s s' with
  | nil => exact h.nothing hc
  | cons sender rest ih =>
    obtain ⟨hsender, hrest⟩ := List.forall_mem_cons.1 hsenders
    have hfirst := h.modifyChannel hc hsender (·.dropSender sender.number)
    exact hfirst.trans (ih hfirst.agree hfirst.closed hrest)

/-- A device of the part leaves its place. -/
theorem Agree.leave (hk : P.devices k) :
    Local P s s' { s with devices := s.devices.set k none }
      { s' with devices := s'.devices.set k none } [] [] := by
  refine ⟨rfl, ⟨hc.observers, ?_, ?_⟩, ⟨h.remote?, ?_, h.channel?, ?_⟩, spares_leave s hk,
    spares_leave s' hk⟩
  · intro other d hother hd
    rw [device?_leave] at hd
    split at hd
    · simp at hd
    · exact hc.remote hother hd
  · intro other d hother hd
    rw [device?_leave] at hd
    split at hd
    · simp at hd
    · exact hc.senders hother hd
  · intro other hother
    rw [device?_leave, device?_leave, h.device? hother]
  · intro other hother
    simpa using h.made hother

theorem Agree.dropDevice (hk : P.devices k) :
    Local P s s' (s.dropDevice k).1 (s'.dropDevice k).1 (s.dropDevice k).2
      (s'.dropDevice k).2 := by
  have hdevice := h.device? hk
  cases hd : s.device? k with
  | none =>
    have hd' := hdevice.trans hd
    simp only [Site.dropDevice, hd, hd']
    exact h.nothing hc
  | some d =>
    have hd' := hdevice.trans hd
    have hsenders := hc.senders hk hd
    have hrest : ∀ {s₁ s₁' : Site}, s₁.Agree P s₁' → s₁.Closed P →
        Local P s₁ s₁' { s₁.dropSenders d.senders with
            devices := (s₁.dropSenders d.senders).devices.set k none }
          { s₁'.dropSenders d.senders with
            devices := (s₁'.dropSenders d.senders).devices.set k none } [] [] := by
      intro s₁ s₁' h₁ hc₁
      have hdropped := h₁.dropSenders hc₁ hsenders
      exact hdropped.trans (hdropped.agree.leave hdropped.closed hk)
    cases hsub : d.subscription with
    | none =>
      simp only [Site.dropDevice, hd, hd', hsub]
      exact hrest h hc
    | some id =>
      have hlost := h.unsubscribe hc (hc.remote hk hd) id
      simp only [Site.dropDevice, hd, hd', hsub]
      simpa using hlost.trans (hrest hlost.agree hlost.closed)

theorem Agree.addSenders {keys : List ChannelKey} (hkeys : ∀ ch ∈ keys, P.channels ch) :
    Local P s s' (s.addSenders keys).1 (s'.addSenders keys).1 [] [] ∧
      (s'.addSenders keys).2 = (s.addSenders keys).2 := by
  induction keys generalizing s s' with
  | nil => exact ⟨h.nothing hc, rfl⟩
  | cons ch rest ih =>
    obtain ⟨hch, hrest⟩ := List.forall_mem_cons.1 hkeys
    have hchannel := h.channel? hch
    cases hget : s.channel? ch with
    | none =>
      have hget' := hchannel.trans hget
      simp only [Site.addSenders, hget, hget']
      exact ih h hc hrest
    | some c =>
      have hget' := hchannel.trans hget
      have hfirst := h.modifyChannel hc hch fun _ => c.addSender.1
      rw [modifyChannel_eq_set hget, modifyChannel_eq_set hget'] at hfirst
      obtain ⟨hothers, hsame⟩ := ih hfirst.agree hfirst.closed hrest
      simp only [Site.addSenders, hget, hget']
      exact ⟨hfirst.trans hothers, by rw [hsame]⟩

/-- A new device does not belong to the part, since it was not there before. -/
theorem Agree.addDevice (remote : RemoteKey) (senders : List Sender) :
    Local P s s' (s.addDevice remote senders).1 (s'.addDevice remote senders).1 [] [] := by
  have hold : ∀ {other}, P.devices other →
      (s.addDevice remote senders).1.device? other = s.device? other := by
    intro other hother
    rw [device?_addDevice, if_neg (Nat.ne_of_lt (h.made hother).1)]
  refine ⟨rfl, ⟨hc.observers, ?_, ?_⟩, ⟨h.remote?, ?_, h.channel?, ?_⟩,
    spares_addDevice s remote senders, spares_addDevice s' remote senders⟩
  · intro other d hother hd
    exact hc.remote hother (hold hother ▸ hd)
  · intro other d hother hd
    exact hc.senders hother (hold hother ▸ hd)
  · intro other hother
    rw [hold hother, device?_addDevice, if_neg (Nat.ne_of_lt (h.made hother).2),
      h.device? hother]
  · intro other hother
    obtain ⟨hlt, hlt'⟩ := h.made hother
    simp only [Site.addDevice, List.length_append, List.length_singleton]
    exact ⟨Nat.lt_succ_of_lt hlt, Nat.lt_succ_of_lt hlt'⟩

end Operations

end Site

end DeviceTwin
