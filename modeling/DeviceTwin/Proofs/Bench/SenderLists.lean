import DeviceTwin.Proofs.Bench.Attempts
import DeviceTwin.Proofs.Site.OneChannel

/-!
# The senders of a device

A device is made with one sender for each of its channels, and gives senders up only when it
publishes.  From one status change to the next its list is therefore fixed.  A sender that is given
up belongs to a channel that has been shut, and such a channel is never opened again; so whatever
was given up earlier would be given up now, and the list after a status change is what is left of
the first one (`Orderly.filter_senders_run`).
-/

namespace DeviceTwin

/-- Whether a device can be told something by an action. -/
def Action.tells : Action → Bool
  | .start _ => true
  | .setState .. => true
  | _ => false

namespace Bench

variable {b b' : Bench} {a : Action} {o : Outcome} {ch : ChannelKey} {k : DeviceKey}

/-! ## Runs -/

/-- What holds of every bench that actions lead to. -/
structure Orderly (b : Bench) : Prop where
  sound : b.Sound
  wired : b.Wired
  tidy : b.site.Tidy

theorem orderly_empty : ({} : Bench).Orderly where
  sound := sound_empty
  wired :=
    { made := fun h => by simp [end?, Named.get?] at h
      injective := fun h => by simp [end?, Named.get?] at h }
  tidy :=
    { freed := nofun
      linked := fun h => by simp [Site.device?] at h }

theorem Orderly.attempted (h : b.Orderly) (a : Action) :
    Attempted b (b.shuts · a) (b.step a).1 (b.step a).2.trace :=
  h.sound.attempted_step h.wired h.tidy a

theorem Orderly.step (h : b.Orderly) (a : Action) : (b.step a).1.Orderly where
  sound := h.sound.step a
  wired := (h.sound.turn_step h.wired a).wired h.wired
  tidy := (h.attempted a).tidy

theorem Orderly.run (h : b.Orderly) (actions : List Action) : (b.run actions).1.Orderly := by
  induction actions generalizing b with
  | nil => exact h
  | cons a rest ih => exact ih (h.step a)

/-- A channel takes events until it is shut. -/
theorem Orderly.takes_run (h : b.Orderly) (actions : List Action) (ch : ChannelKey) :
    (b.run actions).1.takes ch = (b.takes ch && !b.shut ch actions) := by
  induction actions generalizing b with
  | nil => exact (Bool.and_true _).symm
  | cons a rest ih =>
    have hrest := ih (h.step a)
    rw [(h.attempted a).takes ch] at hrest
    rw [shut, Bool.not_or, ← Bool.and_assoc]
    exact hrest

theorem takes_run_empty (actions : List Action) (ch : ChannelKey) :
    (run {} actions).1.takes ch = !shut {} ch actions := by
  rw [orderly_empty.takes_run]
  exact Bool.true_and _

variable {d d' : Device}

theorem accepts_eq_takes (hlt : ch < b.site.channels.length) :
    accepts b.site.channels ch = b.takes ch := by
  simp [accepts, takes, Site.channel?, List.getElem?_eq_getElem hlt]

/-- What an action does to the senders of a device. -/
theorem Orderly.device_attempted (h : b.Orderly) (hd : b.site.device? k = some d)
    (hd' : (b.step a).1.site.device? k = some d') :
    d.Attempted b.takes (b.shift? a k).toList ((b.step a).2.trace.attemptsOf k) d' := by
  obtain ⟨d₀, hd₀, hattempted⟩ := (h.attempted a).device (Site.lt_length_of_device? hd) hd'
  obtain rfl := Option.some.inj (hd.symm.trans hd₀)
  rw [h.sound.publications_eq] at hattempted
  have hsame : ∀ x ∈ d.senders, accepts b.site.channels x.channel = b.takes x.channel :=
    fun x hx => accepts_eq_takes (h.tidy.linked hd x hx)
  cases hattempted with
  | silent hpublished hattempts hsenders => exact .silent hpublished hattempts hsenders
  | tried status hpublished htried hclosed hsenders =>
    refine .tried status hpublished htried (fun x hx => ?_) ?_
    · rw [hclosed x hx, hsame x.sender (htried ▸ List.mem_map_of_mem hx)]
    · rw [hsenders]
      exact List.filter_congr fun x hx => hsame x hx

/-- A statement about a device and the rest of a run: it holds if it holds at the end of the run,
and at an action if it holds after that action. -/
theorem Orderly.device_induction {p : Bench → List Action → Device → Prop} (nil : ∀ b, p b [] d')
    (cons : ∀ {b a rest d d₁}, b.Orderly →
      d.Attempted b.takes (b.shift? a k).toList ((b.step a).2.trace.attemptsOf k) d₁ →
        p (b.step a).1 rest d₁ → p b (a :: rest) d)
    (h : b.Orderly) (hd : b.site.device? k = some d) {actions : List Action}
    (hd' : (b.run actions).1.site.device? k = some d') : p b actions d := by
  induction actions generalizing b d with
  | nil =>
    obtain rfl := Option.some.inj (hd.symm.trans hd')
    exact nil b
  | cons a rest ih =>
    obtain ⟨d₁, hd₁⟩ := h.sound.exists_device?_between [a] hd hd'
    exact cons h (h.device_attempted hd hd₁) (ih (h.step a) hd₁ hd')

/-- A device loses at most senders of channels that have been shut. -/
theorem Orderly.filter_senders_run (h : b.Orderly) (hd : b.site.device? k = some d)
    {actions : List Action} (hd' : (b.run actions).1.site.device? k = some d') :
    d'.senders.filter ((b.run actions).1.takes ·.channel) =
      d.senders.filter ((b.run actions).1.takes ·.channel) := by
  refine Orderly.device_induction (p := fun b actions d =>
    d'.senders.filter ((b.run actions).1.takes ·.channel) =
      d.senders.filter ((b.run actions).1.takes ·.channel)) (fun _ => rfl) ?_ h hd hd'
  intro b a rest d d₁ h hattempted hrest
  cases hattempted with
  | silent _ _ hsenders => exact hrest.trans (by rw [hsenders]; rfl)
  | tried _ _ _ _ hsenders =>
    -- A channel that takes events at the end took them here, so that no such sender was lost.
    refine hrest.trans ?_
    rw [hsenders, List.filter_filter]
    apply List.filter_congr
    intro x _
    have htakes := h.takes_run (a :: rest) x.channel
    change ((b.run (a :: rest)).1.takes x.channel && b.takes x.channel) =
      (b.run (a :: rest)).1.takes x.channel
    rw [htakes]
    cases b.takes x.channel <;> simp

theorem Orderly.senders_sublist (h : b.Orderly) (hd : b.site.device? k = some d)
    {actions : List Action} (hd' : (b.run actions).1.site.device? k = some d') :
    d'.senders.Sublist d.senders := by
  refine Orderly.device_induction (p := fun _ _ d => d'.senders.Sublist d.senders)
    (fun _ => List.Sublist.refl _) ?_ h hd hd'
  intro b a rest d d₁ _ hattempted hrest
  cases hattempted with
  | silent _ _ hsenders => rwa [hsenders] at hrest
  | tried _ _ _ _ hsenders =>
    rw [hsenders] at hrest
    exact hrest.trans List.filter_sublist

/-- Without a status change a device keeps its senders. -/
theorem Orderly.senders_eq (h : b.Orderly) (hd : b.site.device? k = some d)
    {actions : List Action} (hd' : (b.run actions).1.site.device? k = some d')
    (hnone : b.shifts actions k = []) : d'.senders = d.senders := by
  refine Orderly.device_induction (p := fun b actions d =>
    b.shifts actions k = [] → d'.senders = d.senders) (fun _ _ => rfl) ?_ h hd hd' hnone
  intro b a rest d d₁ _ hattempted hrest hnone
  rw [shifts, gather, List.append_eq_nil_iff] at hnone
  cases hattempted with
  | silent _ _ hsenders => exact (hrest hnone.2).trans hsenders
  | tried _ hpublished => simp [hnone.1] at hpublished

/-! ## How a device comes to its senders -/

/-- The device with the key `k` is made with the given senders, a new one for each of the named
channels. -/
structure Constructs (b : Bench) (a : Action) (k : DeviceKey) (given : List Sender) : Prop where
  key : k = b.site.devices.length
  named : ∃ name remote channels, a = .newDevice name remote channels ∧
    b.channelKeys channels = .ok (given.map (·.channel))
  distinct : given.Nodup
  device : ∃ remote, (b.step a).1.site.device? k = some { remote, senders := given }

/-- A device with a new key has just been made. -/
theorem Orderly.constructs (h : b.Orderly)
    (hd' : (b.step a).1.site.device? b.site.devices.length = some d') :
    Constructs b a b.site.devices.length d'.senders := by
  have hnone : ∀ {b' : Bench}, b'.site.devices.length = b.site.devices.length →
      b'.site.device? b.site.devices.length ≠ some d' := by
    intro b' hlength hsome
    exact Nat.lt_irrefl _ (hlength ▸ Site.lt_length_of_device? hsome)
  have hdevice := hd'
  generalize hb' : (b.step a).1 = b' at hdevice
  generalize ho : (b.step a).2 = o
  have ht := h.sound.turn_step h.wired a
  rw [hb', ho] at ht
  cases ht with
  | told a names tells channels devices => exact absurd hdevice (hnone devices)
  | newChannel name buffer =>
    have hlength :
        ((b.addChannel name buffer).dropEnds? (b.channels.get? name)).site.devices.length =
          b.site.devices.length := by
      cases b.channels.get? name <;> rfl
    exact absurd hdevice (hnone hlength)
  | givesUp a ends held kept names site =>
    exact absurd hdevice (hnone (by rw [site]; rfl))
  | closes | receives => exact absurd hdevice (hnone rfl)
  | @newDevice name remote channels key keys hkey hkeys =>
    have hmade : d' = { remote := key, senders := (b.site.addSenders keys).2 } := by
      have hadded : (b.addDevice name key keys).site.device? b.site.devices.length = some d' := by
        cases hold : b.devices.get? name with
        | none => rwa [hold] at hdevice
        | some old =>
          rw [hold] at hdevice
          exact Site.device?_of_dropDevice hdevice
      rw [device?_addDevice, if_pos rfl] at hadded
      exact (Option.some.inj hadded).symm
    have hchannels : (b.site.addSenders keys).2.map (·.channel) = keys := by
      apply b.site.map_channel_addSenders
      intro ch hch
      obtain ⟨name', receiver, hname'⟩ := mem_of_channelKeys hkeys hch
      exact h.wired.made hname'
    subst hmade
    exact
      { key := rfl
        named := ⟨name, remote, channels, rfl, by rw [hkeys, hchannels]⟩
        distinct := b.site.nodup_addSenders keys
        device := ⟨key, hd'⟩ }

theorem Orderly.exists_construction (h : b.Orderly) (hk : b.site.devices.length ≤ k)
    {actions : List Action} (hd : (b.run actions).1.site.device? k = some d) :
    ∃ before a after given, actions = before ++ a :: after ∧
      Constructs (b.run before).1 a k given := by
  induction actions generalizing b with
  | nil => exact absurd (Site.lt_length_of_device? hd) (Nat.not_lt.2 hk)
  | cons a rest ih =>
    rcases Nat.lt_or_ge k (b.step a).1.site.devices.length with hlt | hge
    · obtain ⟨d₁, hd₁⟩ := (h.step a).sound.exists_device?_of_run hlt hd
      rcases (transition_step b a).device h.sound hd₁ with hmade | ⟨d₀, r, hd₀, -⟩
      · obtain rfl := hmade.key
        exact ⟨[], a, rest, d₁.senders, rfl, h.constructs hd₁⟩
      · exact absurd (Site.lt_length_of_device? hd₀) (Nat.not_lt.2 hk)
    · obtain ⟨before, a', after, given, rfl, hmade⟩ := ih (h.step a) hge hd
      exact ⟨a :: before, a', after, given, rfl, hmade⟩

/-! ## The last status change -/

theorem shifts_append (b : Bench) (first second : List Action) (k : DeviceKey) :
    b.shifts (first ++ second) k = b.shifts first k ++ (b.run first).1.shifts second k := by
  induction first generalizing b with
  | nil => rfl
  | cons a rest ih =>
    have hrest := ih (b.step a).1
    simp only [shifts] at hrest
    simp [shifts, gather, Bench.run, hrest]

/-- A device changes its status for the last time by the action `a`. -/
structure LastShift (actions : List Action) (k : DeviceKey) (first : List Action) (a : Action)
    (rest : List Action) : Prop where
  split : actions = first ++ a :: rest
  shift : (run {} first).1.shift? a k ≠ none
  later : ((run {} first).1.step a).1.shifts rest k = []

theorem exists_last_shift (b : Bench) {actions : List Action} (h : b.shifts actions k ≠ []) :
    ∃ first a rest, actions = first ++ a :: rest ∧ (b.run first).1.shift? a k ≠ none ∧
      ((b.run first).1.step a).1.shifts rest k = [] := by
  induction actions generalizing b with
  | nil => exact absurd rfl h
  | cons a rest ih =>
    by_cases hrest : (b.step a).1.shifts rest k = []
    · refine ⟨[], a, rest, rfl, fun hnone => h ?_, hrest⟩
      have hnone : b.shift? a k = none := hnone
      rw [shifts, gather, hnone]
      exact hrest
    · obtain ⟨first, a', after, rfl, hshift, hlater⟩ := ih _ hrest
      exact ⟨a :: first, a', after, rfl, hshift, hlater⟩

/-- The senders of a device in a run in which it has been made with the senders `given`. -/
structure SenderList (actions : List Action) (k : DeviceKey) (given : List Sender) (d : Device) :
    Prop where
  /-- As long as the device has not changed its status, it has all of them. -/
  untouched : shifts {} actions k = [] → d.senders = given
  /-- A started device has changed its status. -/
  changed : d.started = true → ∃ first a rest, LastShift actions k first a rest
  /-- Then it has those of them whose receiver had neither been closed nor given up before. -/
  kept : ∀ {first a rest}, LastShift actions k first a rest →
    d.senders = given.filter fun x => !shut {} x.channel first
  /-- Those that it has lost do not come back. -/
  lost : ∀ {first rest d₀}, actions = first ++ rest →
    (run {} first).1.site.device? k = some d₀ → d.senders.Sublist d₀.senders
  /-- Without a status change it tries none of them. -/
  silent : ∀ {first a rest d₀ d₁}, actions = first ++ a :: rest →
    (run {} first).1.site.device? k = some d₀ →
      ((run {} first).1.step a).1.site.device? k = some d₁ → (run {} first).1.shift? a k = none →
        ((run {} first).1.step a).2.trace.attemptsOf k = [] ∧ d₁.senders = d₀.senders
  /-- By a status change it tries each of them once, in their order, and loses those whose channel
  turns out to be closed, but none whose channel is full. -/
  tried : ∀ {first a rest d₀ d₁ status}, actions = first ++ a :: rest →
    (run {} first).1.site.device? k = some d₀ →
      ((run {} first).1.step a).1.site.device? k = some d₁ →
        (run {} first).1.shift? a k = some status →
          (((run {} first).1.step a).2.trace.attemptsOf k).map (·.sender) = d₀.senders ∧
            d₀.senders.Nodup ∧
              ∀ x ∈ ((run {} first).1.step a).2.trace.attemptsOf k,
                (x.delivery = .closed ↔ shut {} x.sender.channel first = true) ∧
                  (x.sender ∈ d₁.senders ↔ x.delivery ≠ .closed)

section SenderList

variable {before after : List Action} {c : Action} {given : List Sender}

/-- A device is there only after it has been made. -/
theorem Constructs.le_of_device? (hmade : Constructs (run {} before).1 c k given)
    {first rest : List Action} (hsplit : before ++ c :: after = first ++ rest)
    (hd : (run {} first).1.site.device? k = some d) :
    ∃ between, first = before ++ c :: between ∧ after = between ++ rest := by
  have hlt := Site.lt_length_of_device? hd
  rcases List.append_eq_append_iff.1 hsplit with ⟨as, rfl, has⟩ | ⟨bs, rfl, -⟩
  · cases as with
    | nil =>
      rw [List.append_nil, ← hmade.key] at hlt
      exact absurd hlt (Nat.lt_irrefl _)
    | cons x as =>
      obtain ⟨rfl, hafter⟩ := List.cons.inj has
      exact ⟨as, rfl, hafter⟩
  · have hle := length_devices_le_run (run {} first).1 bs
    rw [hmade.key, run_append] at hlt
    exact absurd hlt (Nat.not_lt.2 hle)

/-- What has become of the senders of a device later in the run in which it was made. -/
theorem Constructs.filter_senders (hmade : Constructs (run {} before).1 c k given)
    {between : List Action} (hd : (run {} (before ++ c :: between)).1.site.device? k = some d) :
    d.senders.Sublist given ∧
      d.senders.filter (fun x => !shut {} x.channel (before ++ c :: between)) =
        given.filter fun x => !shut {} x.channel (before ++ c :: between) := by
  obtain ⟨remote, hnew⟩ := hmade.device
  have horderly := (orderly_empty.run before).step c
  have hd' := hd
  rw [run_append_cons] at hd'
  have hfilter := horderly.filter_senders_run hnew hd'
  rw [← run_append_cons] at hfilter
  simp only [takes_run_empty] at hfilter
  exact ⟨horderly.senders_sublist hnew hd', hfilter⟩

theorem started_of_shifts_eq_nil {actions : List Action}
    (hd : (run {} actions).1.site.device? k = some d) (h : shifts {} actions k = []) :
    d.started = false := by
  have hcurrent := (sound_empty.follows_run_of_new (Nat.zero_le k) hd).current
  rw [h] at hcurrent
  have hstopped : d.status = .stopped := (Option.some.inj hcurrent).symm
  obtain ⟨r, -, hatt⟩ := (sound_empty.run actions).site.attached hd
  cases hatt with
  | idle _ hstarted => exact hstarted
  | following id state _ _ _ hstatus =>
    exact absurd (hstatus.symm.trans hstopped) Status.ofConnection_ne_stopped

/-- What an action does to the senders of a device in a run. -/
theorem device_attempted_run {first : List Action} {d₀ d₁ : Device}
    (hd₀ : (run {} first).1.site.device? k = some d₀)
    (hd₁ : ((run {} first).1.step a).1.site.device? k = some d₁) :
    d₀.Attempted (fun ch => !shut {} ch first) ((run {} first).1.shift? a k).toList
      (((run {} first).1.step a).2.trace.attemptsOf k) d₁ := by
  have htakes : (run {} first).1.takes = fun ch => !shut {} ch first :=
    funext fun ch => takes_run_empty first ch
  rw [← htakes]
  exact (orderly_empty.run first).device_attempted hd₀ hd₁

theorem exists_device?_of_shift {status : Status} (h : b.shift? a k = some status) :
    ∃ d₀ d₁, b.site.device? k = some d₀ ∧ (b.step a).1.site.device? k = some d₁ := by
  unfold shift? at h
  split at h
  · next d₀ d₁ hd₀ hd₁ => exact ⟨d₀, d₁, hd₀, hd₁⟩
  · cases h

theorem Constructs.senderList (hmade : Constructs (run {} before).1 c k given)
    (hd : (run {} (before ++ c :: after)).1.site.device? k = some d) :
    SenderList (before ++ c :: after) k given d := by
  constructor
  · intro hnone
    obtain ⟨remote, hnew⟩ := hmade.device
    rw [run_append_cons] at hd
    rw [shifts_append, List.append_eq_nil_iff] at hnone
    have hlater : ((run {} before).1.step c).1.shifts after k = [] :=
      (List.append_eq_nil_iff.1 hnone.2).2
    exact ((orderly_empty.run before).step c).senders_eq hnew hd hlater
  · intro hstarted
    have hshifts : shifts {} (before ++ c :: after) k ≠ [] := by
      intro hnone
      rw [started_of_shifts_eq_nil hd hnone] at hstarted
      cases hstarted
    obtain ⟨first, a, rest, hsplit, hshift, hlater⟩ := exists_last_shift {} hshifts
    exact ⟨first, a, rest, hsplit, hshift, hlater⟩
  · intro first a rest hlast
    obtain ⟨status, hshift⟩ := Option.ne_none_iff_exists'.1 hlast.shift
    obtain ⟨d₀, d₁, hd₀, hd₁⟩ := exists_device?_of_shift hshift
    obtain ⟨between, rfl, -⟩ := hmade.le_of_device? hlast.split hd₀
    -- The last change keeps what is open then, and nothing that is open then was lost before.
    obtain ⟨-, hfilter⟩ := hmade.filter_senders hd₀
    have hend : (((run {} (before ++ c :: between)).1.step a).1.run rest).1.site.device? k =
        some d := by
      rw [← run_append_cons, ← hlast.split]
      exact hd
    have hsame := ((orderly_empty.run _).step a).senders_eq hd₁ hend hlast.later
    cases device_attempted_run hd₀ hd₁ with
    | silent hpublished => simp [hshift] at hpublished
    | tried _ _ _ _ hsenders => rw [hsame, hsenders, hfilter]
  · intro first rest d₀ hsplit hd₀
    rw [hsplit, run_append] at hd
    exact (orderly_empty.run first).senders_sublist hd₀ hd
  · intro first a rest d₀ d₁ _ hd₀ hd₁ hshift
    cases device_attempted_run hd₀ hd₁ with
    | silent _ hattempts hsenders => exact ⟨hattempts, hsenders⟩
    | tried _ hpublished => simp [hshift] at hpublished
  · intro first a rest d₀ d₁ status hsplit hd₀ hd₁ hshift
    obtain ⟨between, rfl, -⟩ := hmade.le_of_device? hsplit hd₀
    have hdistinct : d₀.senders.Nodup := hmade.distinct.sublist (hmade.filter_senders hd₀).1
    cases device_attempted_run hd₀ hd₁ with
    | silent hpublished => simp [hshift] at hpublished
    | tried _ _ htried hclosed hsenders =>
      refine ⟨htried, hdistinct, fun x hx => ?_⟩
      have hshut := hclosed x hx
      rw [Bool.not_eq_false'] at hshut
      refine ⟨hshut, ?_⟩
      have hmem : x.sender ∈ d₀.senders := htried ▸ List.mem_map_of_mem hx
      rw [hsenders, List.mem_filter, ne_eq, hshut]
      simp [hmem]

end SenderList

/-! ## Other channels -/

/-- The bench with other channels in the place of those that there are. -/
def withChannels (b : Bench) (channels : List Channel) : Bench :=
  { b with site := { b.site with channels } }

/-- Where no device can be told anything, no sender is tried. -/
theorem Transition.attempts_eq_nil (ht : Transition b a b' o) (h : a.tells = false) :
    o.trace.attempts = [] := by
  apply Trace.attempts_eq_nil
  intro ch
  cases ht with
  | idle | channels | cloneRemote | dropRemote | newRemote => rfl
  | newDevice => exact offers_dropDevice? _ _
  | dropDevice => exact Site.offers_dropDevice _ _
  | start | setState => cases h
  | refused => exact Site.offers_subscribe_recorder _ _ _ _
  | subscribed =>
    rw [Trace.offers_append, Site.offers_subscribe_recorder, offers_dropSubscription?,
      List.append_nil]
  | @unsubscribe name s => exact offers_dropSubscription? b (some s)

section OtherChannels

variable {channels : List Channel} {c : Channel}

theorem alikeAt_withChannels (hc : b.site.channel? ch = some c) (hc' : channels[ch]? = some c) :
    Site.AlikeAt ch b.site (b.withChannels channels).site where
  remotes := rfl
  devices _ := rfl
  channel := ⟨c, hc, hc'⟩

/-- What one channel gets does not depend on the others. -/
theorem Sound.alike_step (h : b.Sound) (hc : b.site.channel? ch = some c)
    (hc' : channels[ch]? = some c) (htells : a.tells = true) :
    Site.AlikeAt ch (b.step a).1.site ((b.withChannels channels).step a).1.site ∧
      ((b.withChannels channels).step a).2.trace.attemptsTo ch =
        (b.step a).2.trace.attemptsTo ch := by
  have halike := alikeAt_withChannels hc hc'
  cases a with
  | start name =>
    have hname : (b.withChannels channels).devices.get? name = b.devices.get? name := rfl
    cases hkey : b.devices.get? name with
    | none =>
      rw [hkey] at hname
      simp only [Bench.step, withDevice, hkey, hname]
      exact ⟨halike, trivial⟩
    | some key =>
      rw [hkey] at hname
      simp only [Bench.step, withDevice, hkey, hname]
      exact halike.start h.site (h.site.of_eq rfl rfl) key
  | setState holder state upset =>
    have hholder : (b.withChannels channels).remoteKey? holder = b.remoteKey? holder := by
      cases holder <;> rfl
    cases hkey : b.remoteKey? holder with
    | none =>
      rw [hkey] at hholder
      simp only [Bench.step, withRemote, hkey, hholder]
      exact ⟨halike, trivial⟩
    | some key =>
      rw [step_setState hkey, step_setState (hholder.trans hkey)]
      exact halike.setState key state upset
  | _ => cases htells

end OtherChannels

/-! ## The main statement -/

/-- Devices keep their senders while the receivers are there.  At the end of every run, a device has
been made with one sender for each of its channels, and `SenderList` says what has become of them:
a started device has exactly those, in their order, whose receiver had not been closed or given up
before its status changed last, and by every status change it has tried each once that it had then.
What is delivered to one channel, and what the channel is afterwards, is the same if all others are
replaced by channels that are full, closed, or anything else. -/
theorem senders_are_kept_while_open (actions : List Action) :
    (∀ k d, (run {} actions).1.site.device? k = some d →
      ∃ before a after given, actions = before ++ a :: after ∧
        Constructs (run {} before).1 a k given ∧ SenderList actions k given d) ∧
    ∀ ch c channels a, (run {} actions).1.site.channel? ch = some c → channels[ch]? = some c →
      (((run {} actions).1.withChannels channels).step a).2.trace.attemptsTo ch =
          ((run {} actions).1.step a).2.trace.attemptsTo ch ∧
        (((run {} actions).1.step a).2.trace.attempts ≠ [] →
          (((run {} actions).1.withChannels channels).step a).1.site.channel? ch =
            ((run {} actions).1.step a).1.site.channel? ch) := by
  constructor
  · intro k d hd
    obtain ⟨before, a, after, given, rfl, hmade⟩ :=
      orderly_empty.exists_construction (Nat.zero_le k) hd
    exact ⟨before, a, after, given, rfl, hmade, hmade.senderList hd⟩
  · intro ch c channels a hc hc'
    cases htells : a.tells with
    | false =>
      have hnone : ∀ b : Bench, (b.step a).2.trace.attempts = [] :=
        fun b => (transition_step b a).attempts_eq_nil htells
      exact ⟨by simp [Trace.attemptsTo, hnone], fun htried => absurd (hnone _) htried⟩
    | true =>
      obtain ⟨halike, hattempts⟩ := (sound_empty.run actions).alike_step hc hc' htells
      obtain ⟨c', hchannel, hchannel'⟩ := halike.channel
      exact ⟨hattempts, fun _ => hchannel'.trans hchannel.symm⟩

/-- A device that publishes twice to one channel, and in between to a channel that is closed after
it has been started. -/
def interleaved : List Action :=
  [.newChannel ['c'] 0, .newChannel ['e'] 5, .newRemote ['r'] ['p'],
    .newDevice ['a'] (.handle ['r']) [['c'], ['e'], ['c']], .start ['a'], .closeReceiver ['e']]

/-- When its status changes, the senders of the full channel are kept, the one of the closed channel
is lost, and the full channel gets the same if the closed one is replaced by one that takes
events. -/
theorem senders_are_kept_while_open_interleaved :
    let b := (run {} interleaved).1
    let a := Action.setState (.handle ['r']) .connected
    ((b.step a).2.trace.attemptsOf 0).map (·.sender) = [⟨0, 1⟩, ⟨1, 1⟩, ⟨0, 2⟩] ∧
      (∃ given : List Sender,
        [⟨0, 1⟩, ⟨0, 2⟩] = given.filter fun x => !shut {} x.channel interleaved) ∧
      ∀ c, b.site.channel? 0 = some c →
        ((b.withChannels [c, { buffer := 1 }]).step a).2.trace.attemptsTo 0 =
          (b.step a).2.trace.attemptsTo 0 := by
  intro b a
  have hall := senders_are_kept_while_open (interleaved ++ [a])
  have hd₀ : b.site.device? 0 = some { remote := 0, started := true, status := .disconnected,
                                       senders := [⟨0, 1⟩, ⟨1, 1⟩, ⟨0, 2⟩],
                                       subscription := some 0 } := by decide
  have hd₁ : (b.step a).1.site.device? 0 = some { remote := 0, started := true,
                                                  status := .connected,
                                                  model := { loaded := true, loads := 1 },
                                                  senders := [⟨0, 1⟩, ⟨0, 2⟩],
                                                  subscription := some 0 } := by decide
  obtain ⟨before, c, after, given, -, -, hlist⟩ := hall.1 0 _ hd₁
  have hlast : LastShift (interleaved ++ [a]) 0 interleaved a [] := ⟨rfl, by decide, rfl⟩
  have hshift : b.shift? a 0 = some .connected := by decide
  refine ⟨(hlist.tried rfl hd₀ hd₁ hshift).1, ⟨given, hlist.kept hlast⟩, fun c hc => ?_⟩
  exact ((senders_are_kept_while_open interleaved).2 0 c [c, { buffer := 1 }] a hc rfl).1

end Bench

end DeviceTwin
