import DeviceTwin.Proofs.Site.Offers

/-!
# Senders that come and go

Most operations on a site publish nothing.  They may make senders and give senders up, but what
waits in a channel, whether it is open and who is parked stays as it is (`Site.Quiet`).
-/

namespace DeviceTwin

namespace Site

variable {s s' : Site} {ch : ChannelKey} {k : DeviceKey}

theorem quiet_of_eq (hchannels : s'.channels = s.channels) (hdevices : s'.devices = s.devices) :
    s.Quiet s' where
  channels := by rw [hchannels]
  senders := by
    intro k d' hd'
    rw [device?, hdevices] at hd'
    exact ⟨d', hd', rfl⟩

theorem quiet_addRemote (s : Site) (name : Text) : s.Quiet (s.addRemote name).1 :=
  quiet_of_eq rfl rfl

theorem quiet_unsubscribe (s : Site) (key : RemoteKey) (id : ObserverId) :
    s.Quiet (s.unsubscribe key id).1 :=
  quiet_of_eq (channels_unsubscribe s key id) (devices_unsubscribe s key id)

theorem offers_unsubscribe (s : Site) (key : RemoteKey) (id : ObserverId) :
    (s.unsubscribe key id).2.offers ch = [] := by
  unfold unsubscribe
  split <;> rfl

theorem quiet_subscribe_recorder (s : Site) (key : RemoteKey) (label : Text)
    (failsOn : Option Connection) : s.Quiet (s.subscribe key (.recorder label failsOn)).site := by
  cases hresult : (s.subscribe key (.recorder label failsOn)).result with
  | ok id =>
    obtain ⟨r, -, -, -, hsite, -⟩ := subscribe_recorder_eq_ok hresult
    rw [hsite]
    exact quiet_modifyRemote _ _ _
  | error panic =>
    rcases subscribe_recorder_eq_error hresult with ⟨hsite, -⟩ | ⟨r, -, -, -, -, hsite, -⟩
    · rw [hsite]
      exact Quiet.refl s
    · rw [hsite]
      exact quiet_modifyRemote _ _ _

theorem offers_subscribe_recorder (s : Site) (key : RemoteKey) (label : Text)
    (failsOn : Option Connection) :
    (s.subscribe key (.recorder label failsOn)).trace.offers ch = [] := by
  unfold subscribe
  split
  · rfl
  · split
    · rfl
    · dsimp only
      split <;> rfl

theorem publications_subscribe_recorder (s : Site) (key : RemoteKey) (label : Text)
    (failsOn : Option Connection) :
    (s.subscribe key (.recorder label failsOn)).trace.publications k = [] :=
  prompted_subscribe _ k (deliveries_subscribe_recorder label failsOn)

theorem bare_modify (channels : List Channel) (key : ChannelKey) {f : Channel → Channel}
    (hf : ∀ c, (f c).bare = c.bare) :
    (channels.modify key f).map Channel.bare = channels.map Channel.bare := by
  apply List.ext_getElem?
  intro i
  simp only [List.getElem?_map, List.getElem?_modify]
  cases channels[i]? with
  | none => rfl
  | some c => split <;> simp [hf]

theorem quiet_modifyChannel (s : Site) (key : ChannelKey) {f : Channel → Channel}
    (hf : ∀ c, (f c).bare = c.bare) : s.Quiet (s.modifyChannel key f) where
  channels := bare_modify s.channels key hf
  senders hd := ⟨_, hd, rfl⟩

theorem quiet_dropSenders (s : Site) (senders : List Sender) :
    s.Quiet (s.dropSenders senders) := by
  induction senders generalizing s with
  | nil => exact Quiet.refl s
  | cons sender rest ih =>
    have hfirst : s.Quiet (s.modifyChannel sender.channel (·.dropSender sender.number)) :=
      quiet_modifyChannel s _ fun c => Channel.bare_dropSender c _
    exact hfirst.trans (ih _)

theorem quiet_addSenders (s : Site) (keys : List ChannelKey) :
    s.Quiet (s.addSenders keys).1 := by
  induction keys generalizing s with
  | nil => exact Quiet.refl s
  | cons key rest ih =>
    cases hc : s.channel? key with
    | none =>
      simp only [addSenders, hc]
      exact ih s
    | some c =>
      have hfirst : s.Quiet { s with channels := s.channels.set key c.addSender.1 } := by
        refine ⟨?_, fun hd => ⟨_, hd, rfl⟩⟩
        obtain ⟨hlt, rfl⟩ := List.getElem?_eq_some_iff.1 hc
        rw [List.map_set, Channel.bare_addSender, ← List.map_set, List.set_getElem_self]
      simp only [addSenders, hc]
      exact hfirst.trans (ih _)

theorem quiet_dropDevice (s : Site) (key : DeviceKey) : s.Quiet (s.dropDevice key).1 := by
  cases hd : s.device? key with
  | none =>
    simp only [dropDevice, hd]
    exact Quiet.refl s
  | some d =>
    constructor
    · cases hsub : d.subscription with
      | none =>
        simp only [dropDevice, hd, hsub]
        exact (quiet_dropSenders s d.senders).channels
      | some id =>
        simp only [dropDevice, hd, hsub]
        exact ((quiet_unsubscribe s d.remote id).trans (quiet_dropSenders _ d.senders)).channels
    · intro k d' hd'
      rw [device?_dropDevice hd] at hd'
      split at hd'
      · simp at hd'
      · exact ⟨d', hd', rfl⟩

theorem offers_dropDevice (s : Site) (key : DeviceKey) :
    (s.dropDevice key).2.offers ch = [] := by
  unfold dropDevice
  split
  · rfl
  · dsimp only
    split
    · exact offers_unsubscribe _ _ _
    · rfl

theorem publications_dropDevice (s : Site) (key : DeviceKey) :
    (s.dropDevice key).2.publications k = [] :=
  prompted_dropDevice k (Trace.deliveries_of_calls_eq_nil (calls_dropDevice s key))

/-- A new device gets one sender for each of its channels. -/
theorem map_channel_addSenders (s : Site) {keys : List ChannelKey}
    (hmade : ∀ key ∈ keys, key < s.channels.length) :
    (s.addSenders keys).2.map (·.channel) = keys := by
  induction keys generalizing s with
  | nil => rfl
  | cons key rest ih =>
    have hlt : key < s.channels.length := hmade key (by simp)
    have hc : s.channel? key = some s.channels[key] := List.getElem?_eq_getElem hlt
    simp only [addSenders, hc, List.map_cons, List.cons.injEq, true_and]
    apply ih
    intro other hother
    simpa using hmade other (by simp [hother])

/-! ## A channel with one sender -/

section Sole

variable {m : Nat} {key : ChannelKey} {c : Channel}

/-- A channel may change as long as its sender keeps pace and it is not opened again. -/
theorem Sole.modifyChannel (h : s.Sole ch k m) {f : Channel → Channel}
    (hf : ∀ c, s.channel? key = some c →
      (c.Paced m → (f c).Paced m) ∧ (c.accepting = false → (f c).accepting = false)) :
    (s.modifyChannel key f).Sole ch k m where
  paced := by
    intro c' hc'
    rw [channel?_modifyChannel] at hc'
    split at hc'
    · next heq =>
      subst heq
      obtain ⟨c, hc, rfl⟩ := Option.map_eq_some_iff.1 hc'
      exact (hf c hc).1 (h.paced hc)
    · exact h.paced hc'
  others hd hne := h.others hd hne
  holder := by
    intro d hd
    obtain ⟨c, hc, hcases⟩ := h.holder hd
    by_cases heq : key = ch
    · subst heq
      exact ⟨f c, by simp [hc], hcases.imp_right fun hclosed => ⟨(hf c hc).2 hclosed.1, hclosed.2⟩⟩
    · exact ⟨c, by simp [heq, hc], hcases⟩

theorem Sole.addChannel (h : s.Sole ch k m) (hnew : c.waiting = []) (hparked : c.parked = []) :
    Sole { s with channels := s.channels ++ [c] } ch k m where
  paced := by
    intro c' hc'
    change (s.channels ++ [c])[ch]? = some c' at hc'
    rw [List.getElem?_append] at hc'
    split at hc'
    · exact h.paced hc'
    · obtain rfl : c' = c := by simpa using List.mem_of_getElem? hc'
      exact ⟨by simp [hnew], by simp [hnew, hparked]⟩
  others hd hne := h.others hd hne
  holder := by
    intro d hd
    obtain ⟨c', hc', hcases⟩ := h.holder hd
    have hlt : ch < s.channels.length := (List.getElem?_eq_some_iff.1 hc').1
    exact ⟨c', by rw [← hc']; exact List.getElem?_append_left hlt, hcases⟩

/-- A new device that has no sender of a channel makes no difference to it. -/
theorem Sole.addDevice_of_ne (h : s.Sole ch k m) (hne : s.devices.length ≠ k)
    {senders : List Sender} (hnone : senders.filter (·.channel = ch) = []) (remote : RemoteKey) :
    (s.addDevice remote senders).1.Sole ch k m where
  paced hc := h.paced hc
  others := by
    intro other d hd hother
    rw [device?_addDevice] at hd
    split at hd
    · obtain rfl := Option.some.inj hd
      exact hnone
    · exact h.others hd hother
  holder := by
    intro d hd
    rw [device?_addDevice, if_neg (Ne.symm hne)] at hd
    exact h.holder hd

/-- A new device that gets the only sender of a channel in which nothing waits. -/
theorem Sole.addDevice_self (h : s.Sole ch s.devices.length m) (hc : s.channel? ch = some c)
    (hwaiting : c.waiting = []) {senders : List Sender} {number : Nat}
    (hsole : senders.filter (·.channel = ch) = [⟨ch, number⟩]) (remote : RemoteKey) :
    (s.addDevice remote senders).1.Sole ch s.devices.length number where
  paced := by
    intro c' hc'
    obtain rfl := Option.some.inj (hc.symm.trans hc')
    exact (h.paced hc).of_waiting_eq_nil hwaiting number
  others := by
    intro other d hd hother
    rw [device?_addDevice, if_neg hother] at hd
    exact h.others hd hother
  holder := by
    intro d hd
    rw [device?_addDevice, if_pos rfl] at hd
    obtain rfl := Option.some.inj hd
    exact ⟨c, hc, Or.inl hsole⟩

/-- How many of the new senders lead to a channel. -/
theorem length_filter_addSenders (s : Site) {keys : List ChannelKey}
    (hmade : ∀ key ∈ keys, key < s.channels.length) (ch : ChannelKey) :
    ((s.addSenders keys).2.filter (·.channel = ch)).length = keys.count ch := by
  have hmap := s.map_channel_addSenders hmade
  calc
    _ = (s.addSenders keys).2.countP (·.channel = ch) := List.countP_eq_length_filter.symm
    _ = ((s.addSenders keys).2.map (·.channel)).count ch := by
      rw [List.count, List.countP_map]
      rfl
    _ = keys.count ch := by rw [hmap]

theorem serves_modifyChannel {kept : Prop} {f : Channel → Channel}
    (hf : key = ch → ∀ c, s.channel? key = some c →
      Channel.Serves kept (some c) [] [] (some (f c))) :
    Channel.Serves kept (s.channel? ch) [] [] ((s.modifyChannel key f).channel? ch) := by
  rw [channel?_modifyChannel]
  by_cases heq : key = ch
  · subst heq
    rw [if_pos rfl]
    cases hc : s.channel? key with
    | none => exact Channel.serves_refl.always
    | some c => exact hf rfl c hc
  · rw [if_neg heq]
    exact Channel.serves_refl.always

end Sole

end Site

end DeviceTwin
