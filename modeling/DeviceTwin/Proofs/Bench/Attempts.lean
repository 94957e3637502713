import DeviceTwin.Proofs.Bench.Publishing
import DeviceTwin.Proofs.Site.Attempts

/-!
# What actions do to channels and senders

Apart from devices that publish, the only actions that matter to the senders of devices are those
that shut a channel: its receiver is closed, or given up, or replaced (`Bench.shuts`).
`Bench.Attempted` says what becomes of channels and of the senders of devices, and
`Sound.attempted_step` says it of every action.
-/

namespace DeviceTwin

namespace ChannelEnds

variable (ends : ChannelEnds) {c : Channel}

theorem freed_giveUp (h : c.Freed) : (ends.giveUp c).Freed := by
  cases hreceiver : ends.receiver with
  | false => exact h.of_bare (bare_giveUp hreceiver)
  | true => simp [giveUp, hreceiver, Channel.dropReceiver, Channel.close, Channel.Freed]

theorem accepting_giveUp_eq : (ends.giveUp c).accepting = (c.accepting && !ends.receiver) := by
  cases hreceiver : ends.receiver with
  | false =>
    obtain ⟨-, -, haccepting, -⟩ := Channel.eq_of_bare (bare_giveUp hreceiver (c := c))
    rw [haccepting]
    exact (Bool.and_true _).symm
  | true => simp [giveUp, hreceiver, Channel.dropReceiver, Channel.close]

end ChannelEnds

namespace Bench

/-! ## Channels that are shut -/

/-- Whether an action closes the receiver of a channel or gives it up. -/
def shuts (b : Bench) (ch : ChannelKey) : Action → Bool
  | .closeReceiver name => (b.end? name).any (·.1 = ch)
  | .dropReceiver name => b.end? name = some (ch, true)
  | .newChannel name buffer => buffer < Channel.bufferLimit && b.end? name = some (ch, true)
  | _ => false

/-- Whether the receiver of a channel has been closed or given up by one of the actions. -/
def shut (b : Bench) (ch : ChannelKey) : List Action → Bool
  | [] => false
  | a :: rest => b.shuts ch a || (b.step a).1.shut ch rest

/-- Whether a channel takes events, or has still to be made. -/
def takes (b : Bench) (ch : ChannelKey) : Bool := (b.site.channel? ch).all (·.accepting)

/-- What happens to channels, of which some are shut, and to the senders of the devices that there
are. -/
structure Attempted (b : Bench) (shutting : ChannelKey → Bool) (b' : Bench) (t : Trace) : Prop where
  tidy : b'.site.Tidy
  takes : ∀ ch, b'.takes ch = (b.takes ch && !shutting ch)
  device : ∀ {k d'}, k < b.site.devices.length → b'.site.device? k = some d' →
    ∃ d, b.site.device? k = some d ∧
      d.Attempted (accepts b.site.channels) (t.publications k) (t.attemptsOf k) d'

variable {b b' : Bench} {a : Action} {o : Outcome} {t : Trace} {ch : ChannelKey} {k : DeviceKey}
  {shutting : ChannelKey → Bool}

theorem takes_congr
    (h : b'.site.channels.map Channel.accepting = b.site.channels.map Channel.accepting)
    (ch : ChannelKey) : b'.takes ch = b.takes ch := by
  have hch : (b'.site.channel? ch).map Channel.accepting =
      (b.site.channel? ch).map Channel.accepting := by
    simp only [Site.channel?, ← List.getElem?_map, h]
  have htakes : ∀ o : Option Channel, o.all (·.accepting) = (o.map Channel.accepting).all id := by
    intro o
    cases o <;> rfl
  rw [takes, takes, htakes, hch, ← htakes]

theorem attempted_of_site (h : Site.Attempted b.site t b'.site)
    (hshuts : ∀ ch, shutting ch = false) : Attempted b shutting b' t where
  tidy := h.tidy
  takes := by
    intro ch
    rw [takes_congr h.accepting, hshuts, Bool.not_false, Bool.and_true]
  device _ hd' := h.device hd'

theorem attempted_of_quiet (htidy : b.site.Tidy) (h : b.site.Quiet b'.site)
    (hoffers : ∀ ch, t.offers ch = []) (hpublications : ∀ k, t.publications k = [])
    (hshuts : ∀ ch, shutting ch = false) : Attempted b shutting b' t :=
  attempted_of_site (h.attempted htidy (Trace.attempts_eq_nil hoffers) hpublications) hshuts

theorem attempted_of_idle (htidy : b.site.Tidy) (hshuts : ∀ ch, shutting ch = false) :
    Attempted b shutting b [] :=
  attempted_of_quiet htidy (Site.Quiet.refl _) (fun _ => rfl) (fun _ => rfl) hshuts

/-! ## Actions on channels -/

/-- A channel may change as long as it is closed only by an action that shuts it. -/
theorem attempted_of_modifyChannel (htidy : b.site.Tidy) {key : ChannelKey} {c : Channel}
    {f : Channel → Channel} (hc : b.site.channel? key = some c)
    (hsite : b'.site = b.site.modifyChannel key f) (hfreed : (f c).Freed)
    (haccepting : (f c).accepting = (c.accepting && !shutting key))
    (hothers : ∀ ch, key ≠ ch → shutting ch = false) : Attempted b shutting b' [] := by
  constructor
  · constructor
    · intro x hx
      obtain ⟨ch, hch⟩ : ∃ ch, b'.site.channel? ch = some x := List.mem_iff_getElem?.1 hx
      rw [hsite, Site.channel?_modifyChannel] at hch
      split at hch
      · next heq =>
        obtain rfl : f c = x := by simpa [← heq, hc] using hch
        exact hfreed
      · exact htidy.freed x (List.mem_of_getElem? hch)
    · intro k d hd x hx
      rw [hsite] at hd
      have hlength : b'.site.channels.length = b.site.channels.length := by
        simp [hsite, Site.modifyChannel]
      rw [hlength]
      exact htidy.linked hd x hx
  · intro ch
    rw [takes, hsite, Site.channel?_modifyChannel]
    split
    · next heq =>
      subst heq
      simp [takes, hc, haccepting]
    · next hne => simp [takes, hothers ch hne]
  · intro k d' _ hd'
    rw [hsite] at hd'
    exact ⟨d', hd', .silent rfl rfl rfl⟩

theorem tidy_addChannel (htidy : b.site.Tidy) (name : Text) (buffer : Nat) :
    (b.addChannel name buffer).site.Tidy where
  freed := by
    intro c hc
    rcases List.mem_append.1 hc with hc | hc
    · exact htidy.freed c hc
    · obtain rfl := List.mem_singleton.1 hc
      exact nofun
  linked := by
    intro k d hd x hx
    have hlength : (b.addChannel name buffer).site.channels.length = b.site.channels.length + 1 :=
      List.length_append
    rw [hlength]
    exact Nat.lt_succ_of_lt (htidy.linked hd x hx)

/-- A channel that has just been made takes events. -/
theorem takes_addChannel (b : Bench) (name : Text) (buffer : Nat) (ch : ChannelKey) :
    (b.addChannel name buffer).takes ch = b.takes ch := by
  change (b.site.channels ++ [{ buffer, senders := [0], issued := 1 }])[ch]?.all _ =
    b.site.channels[ch]?.all _
  rcases Nat.lt_trichotomy ch b.site.channels.length with hlt | rfl | hgt
  · rw [List.getElem?_append_left hlt]
  · simp
  · have hle : b.site.channels.length + 1 ≤ ch := hgt
    rw [List.getElem?_eq_none (by simpa using hle), List.getElem?_eq_none (Nat.le_of_lt hgt)]

section Channels

variable (htidy : b.site.Tidy) (name : Text)

include htidy

theorem attempted_withChannel {f : ChannelEnds → Bench × Outcome}
    (hnone : b.end? name = none → ∀ ch, shutting ch = false)
    (h : ∀ ends, b.channels.get? name = some ends →
      Attempted b shutting (f ends).1 (f ends).2.trace) :
    Attempted b shutting (b.withChannel name f).1 (b.withChannel name f).2.trace := by
  cases hends : b.channels.get? name with
  | none =>
    simp only [withChannel, hends]
    exact attempted_of_idle htidy (hnone (by simp [end?, hends]))
  | some ends =>
    simp only [withChannel, hends]
    exact h ends hends

variable (hw : b.Wired)

include hw

theorem exists_channel? {ends : ChannelEnds} (hends : b.channels.get? name = some ends) :
    ∃ c, b.site.channel? ends.channel = some c ∧ c.Freed := by
  have hlt := hw.made (end?_of_get? hends)
  exact ⟨_, List.getElem?_eq_getElem hlt, htidy.freed _ (List.getElem_mem hlt)⟩

theorem attempted_dropSender : Attempted b (b.shuts · (.dropSender name))
    (b.step (.dropSender name)).1 (b.step (.dropSender name)).2.trace := by
  apply attempted_withChannel htidy name fun _ _ => rfl
  intro ends hends
  obtain ⟨c, hc, hfreed⟩ := exists_channel? htidy name hw hends
  exact attempted_of_modifyChannel htidy hc
    (f := ChannelEnds.giveUp { ends with receiver := false }) rfl
    (ChannelEnds.freed_giveUp _ hfreed) (ChannelEnds.accepting_giveUp_eq _) fun _ _ => rfl

theorem attempted_closeReceiver : Attempted b (b.shuts · (.closeReceiver name))
    (b.step (.closeReceiver name)).1 (b.step (.closeReceiver name)).2.trace := by
  apply attempted_withChannel htidy name fun hnone ch => by simp [shuts, hnone]
  intro ends hends
  obtain ⟨c, hc, hfreed⟩ := exists_channel? htidy name hw hends
  have hheld := end?_of_get? hends
  refine attempted_of_modifyChannel htidy hc (f := Channel.close) rfl (fun _ => rfl) ?_ ?_
  · simp [shuts, hheld, Channel.close]
  · intro ch hne
    simp [shuts, hheld, hne]

theorem attempted_dropReceiver : Attempted b (b.shuts · (.dropReceiver name))
    (b.step (.dropReceiver name)).1 (b.step (.dropReceiver name)).2.trace := by
  apply attempted_withChannel htidy name fun hnone ch => by simp [shuts, hnone]
  intro ends hends
  obtain ⟨c, hc, hfreed⟩ := exists_channel? htidy name hw hends
  have hheld := end?_of_get? hends
  refine attempted_of_modifyChannel htidy hc (f := ChannelEnds.giveUp { ends with sender := none })
    rfl (ChannelEnds.freed_giveUp _ hfreed) ?_ ?_
  · rw [ChannelEnds.accepting_giveUp_eq]
    simp [shuts, hheld]
  · intro ch hne
    simp [shuts, hheld, hne]

theorem attempted_receive (limit : Option Nat) : Attempted b (b.shuts · (.receive name limit))
    (b.step (.receive name limit)).1 (b.step (.receive name limit)).2.trace := by
  cases hends : b.channels.get? name with
  | none =>
    simp only [step, withChannel, hends]
    exact attempted_of_idle htidy fun _ => rfl
  | some ends =>
    obtain ⟨c, hc, hfreed⟩ := exists_channel? htidy name hw hends
    rw [step_receive limit (end?_of_get? hends) hc]
    refine attempted_of_modifyChannel htidy hc (f := fun _ => (c.withdraw limit).1) rfl ?_ ?_
      fun _ _ => rfl
    · rw [Channel.withdraw_eq]
      intro hclosed
      simp [hfreed hclosed]
    · rw [Channel.withdraw_eq]
      exact (Bool.and_true _).symm

theorem attempted_newChannel (buffer : Nat) : Attempted b (b.shuts · (.newChannel name buffer))
    (b.step (.newChannel name buffer)).1 (b.step (.newChannel name buffer)).2.trace := by
  have hadded := tidy_addChannel htidy name buffer
  by_cases hlimit : Channel.bufferLimit ≤ buffer
  · simp only [step, Site.addChannel, hlimit, if_true]
    exact attempted_of_idle htidy fun ch => by simp [shuts, Nat.not_lt.2 hlimit]
  · cases hold : b.channels.get? name with
    | none =>
      simp only [step, Site.addChannel, hlimit, if_false, hold]
      refine ⟨hadded, fun ch => ?_, fun _ hd' => ⟨_, hd', .silent rfl rfl rfl⟩⟩
      have hshuts : b.shuts ch (.newChannel name buffer) = false := by simp [shuts, end?, hold]
      rw [hshuts, Bool.not_false, Bool.and_true]
      exact takes_addChannel b name buffer ch
    | some ends =>
      have hheld := end?_of_get? hold
      have hlt := hw.made hheld
      have hc : (b.addChannel name buffer).site.channel? ends.channel =
          some b.site.channels[ends.channel] := by
        rw [Site.channel?]
        exact (List.getElem?_append_left hlt).trans (List.getElem?_eq_getElem hlt)
      have hfreed := htidy.freed _ (List.getElem_mem hlt)
      have hshuts : ∀ ch, b.shuts ch (.newChannel name buffer) =
          (ends.receiver && decide (ends.channel = ch)) := by
        intro ch
        simp [shuts, hheld, Nat.lt_of_not_le hlimit, Bool.and_comm]
      -- The new channel is made before the one that had the name is given up.
      have hgiven : Attempted (b.addChannel name buffer) (b.shuts · (.newChannel name buffer))
          ((b.addChannel name buffer).dropEnds ends) [] := by
        refine attempted_of_modifyChannel hadded hc (f := ends.giveUp) rfl ?_ ?_ ?_
        · exact ends.freed_giveUp hfreed
        · rw [ends.accepting_giveUp_eq, hshuts]
          simp
        · intro ch hne
          simp [hshuts, hne]
      simp only [step, Site.addChannel, hlimit, if_false, hold]
      refine ⟨hgiven.tidy, fun ch => ?_, fun _ hd' => ⟨_, hd', .silent rfl rfl rfl⟩⟩
      rw [← takes_addChannel b name buffer ch]
      exact hgiven.takes ch

end Channels

/-! ## Every action -/

section Step

variable (htidy : b.site.Tidy)

include htidy

theorem attempted_withRemote {holder : Holder} {f : RemoteKey → Bench × Outcome}
    (hshuts : ∀ ch, shutting ch = false)
    (h : ∀ key, b.remoteKey? holder = some key →
      Attempted b shutting (f key).1 (f key).2.trace) :
    Attempted b shutting (b.withRemote holder f).1 (b.withRemote holder f).2.trace := by
  cases hkey : b.remoteKey? holder with
  | none =>
    simp only [withRemote, hkey]
    exact attempted_of_idle htidy hshuts
  | some key =>
    simp only [withRemote, hkey]
    exact h key hkey

theorem attempted_withDevice {name : Text} {f : DeviceKey → Bench × Outcome}
    (hshuts : ∀ ch, shutting ch = false)
    (h : ∀ key, Attempted b shutting (f key).1 (f key).2.trace) :
    Attempted b shutting (b.withDevice name f).1 (b.withDevice name f).2.trace := by
  cases hkey : b.devices.get? name with
  | none =>
    simp only [withDevice, hkey]
    exact attempted_of_idle htidy hshuts
  | some key =>
    simp only [withDevice, hkey]
    exact h key

theorem attempted_newDevice (name : Text) (remote : Holder) (channels : List Text) :
    Attempted b (b.shuts · (.newDevice name remote channels))
      (b.step (.newDevice name remote channels)).1
      (b.step (.newDevice name remote channels)).2.trace := by
  cases hkey : b.remoteKey? remote with
  | none =>
    simp only [step, withRemote, hkey]
    exact attempted_of_idle htidy fun _ => rfl
  | some key =>
    cases hkeys : b.channelKeys channels with
    | error unknown =>
      simp only [step, withRemote, hkey, hkeys]
      exact attempted_of_idle htidy fun _ => rfl
    | ok keys =>
      rw [step_newDevice hkey hkeys]
      have hadded : (b.addDevice name key keys).site.Tidy := htidy.addDevice key keys
      have hquiet := quiet_dropDevice? (b.addDevice name key keys) (b.devices.get? name)
      refine ⟨hquiet.tidy hadded, fun ch => ?_, fun {k d'} hk hd' => ?_⟩
      · have hchannels : ((b.addDevice name key keys).dropDevice?
            (b.devices.get? name)).1.site.channels.map Channel.accepting =
              b.site.channels.map Channel.accepting :=
          hquiet.accepting.trans (b.site.quiet_addSenders keys).accepting
        rw [takes_congr hchannels]
        exact (Bool.and_true _).symm
      · obtain ⟨d, hd, hsenders⟩ := hquiet.senders hd'
        rw [device?_addDevice, if_neg (Nat.ne_of_lt hk)] at hd
        have hattempts : ((b.addDevice name key keys).dropDevice?
            (b.devices.get? name)).2.attempts = [] :=
          Trace.attempts_eq_nil fun ch => offers_dropDevice? _ _
        refine ⟨d, hd, .silent (publications_dropDevice? _ _) ?_ hsenders⟩
        rw [Trace.attemptsOf, hattempts, List.filter_nil]

theorem attempted_subscribe (name : Text) (holder : Holder) (failsOn : Option Connection) :
    Attempted b (b.shuts · (.subscribe name holder failsOn))
      (b.step (.subscribe name holder failsOn)).1
      (b.step (.subscribe name holder failsOn)).2.trace := by
  cases hkey : b.remoteKey? holder with
  | none =>
    simp only [step, withRemote, hkey]
    exact attempted_of_idle htidy fun _ => rfl
  | some key =>
    have hsite := b.site.quiet_subscribe_recorder key name failsOn
    have hoffers : ∀ ch, (b.site.subscribe key (.recorder name failsOn)).trace.offers ch = [] :=
      fun ch => Site.offers_subscribe_recorder _ _ _ _
    have hpublications : ∀ k,
        (b.site.subscribe key (.recorder name failsOn)).trace.publications k = [] :=
      fun k => Site.publications_subscribe_recorder _ _ _ _
    cases hresult : (b.site.subscribe key (.recorder name failsOn)).result with
    | error panic =>
      rw [step_subscribe_of_error hkey hresult]
      exact attempted_of_quiet htidy hsite hoffers hpublications fun _ => rfl
    | ok id =>
      obtain ⟨b₁, hb₁⟩ : ∃ b₁, b₁ = { b with
          site := (b.site.subscribe key (.recorder name failsOn)).site
          subscriptions := b.subscriptions.put name { remote := key, observer := id } } :=
        ⟨_, rfl⟩
      have hsite₁ : b.site.Quiet b₁.site := by rwa [hb₁]
      rw [step_subscribe_of_ok hkey hresult hb₁]
      refine attempted_of_quiet htidy (hsite₁.trans (quiet_dropSubscription? b₁ _)) ?_ ?_
        fun _ => rfl
      · intro ch
        rw [Trace.offers_append, hoffers, offers_dropSubscription?, List.append_nil]
      · intro k
        rw [Trace.publications_append, hpublications, publications_dropSubscription?,
          List.append_nil]

end Step

/-- What an action does to channels and to the senders of devices. -/
theorem Sound.attempted_step (h : b.Sound) (hw : b.Wired) (htidy : b.site.Tidy) (a : Action) :
    Attempted b (b.shuts · a) (b.step a).1 (b.step a).2.trace := by
  cases a with
  | newRemote handle name =>
    exact attempted_of_quiet htidy (Site.quiet_addRemote _ _) (fun _ => rfl) (fun _ => rfl)
      fun _ => rfl
  | cloneRemote handle source =>
    apply attempted_withRemote htidy fun _ => rfl
    intro key _
    exact attempted_of_quiet htidy (Site.Quiet.refl _) (fun _ => rfl) (fun _ => rfl) fun _ => rfl
  | dropRemote handle =>
    exact attempted_of_quiet htidy (Site.Quiet.refl _) (fun _ => rfl) (fun _ => rfl) fun _ => rfl
  | newDevice name remote channels => exact attempted_newDevice htidy name remote channels
  | dropDevice name =>
    apply attempted_withDevice htidy fun _ => rfl
    intro key
    exact attempted_of_quiet htidy (Site.quiet_dropDevice _ _)
      (fun _ => Site.offers_dropDevice _ _) (fun _ => Site.publications_dropDevice _ _)
      fun _ => rfl
  | start name =>
    apply attempted_withDevice htidy fun _ => rfl
    intro key
    exact attempted_of_site (h.site.attempted_start htidy key) fun _ => rfl
  | setState remote state upset =>
    apply attempted_withRemote htidy fun _ => rfl
    intro key _
    exact attempted_of_site (Site.attempted_setState state upset key htidy) fun _ => rfl
  | askRemote remote query =>
    apply attempted_withRemote htidy fun _ => rfl
    intro key _
    simp only [conclude, Site.site_inspect, Site.trace_inspect]
    exact attempted_of_idle htidy fun _ => rfl
  | askDevice name query =>
    apply attempted_withDevice htidy fun _ => rfl
    intro key
    cases b.site.device? key with
    | none => exact attempted_of_idle htidy fun _ => rfl
    | some d => exact attempted_of_idle htidy fun _ => rfl
  | subscribe name holder failsOn => exact attempted_subscribe htidy name holder failsOn
  | unsubscribe name =>
    cases hs : b.subscriptions.get? name with
    | none =>
      simp only [Bench.step, hs]
      exact attempted_of_idle htidy fun _ => rfl
    | some s =>
      simp only [Bench.step, hs]
      exact attempted_of_quiet htidy (quiet_dropSubscription? b (some s))
        (fun _ => offers_dropSubscription? b (some s))
        (fun _ => publications_dropSubscription? b (some s)) fun _ => rfl
  | newChannel name buffer => exact attempted_newChannel htidy name hw buffer
  | dropSender name => exact attempted_dropSender htidy name hw
  | closeReceiver name => exact attempted_closeReceiver htidy name hw
  | dropReceiver name => exact attempted_dropReceiver htidy name hw
  | receive name limit => exact attempted_receive htidy name hw limit

end Bench

end DeviceTwin
