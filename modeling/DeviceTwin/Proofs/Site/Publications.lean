import DeviceTwin.Proofs.Site.Soundness

/-!
# What devices are told and publish

A device has a status change to publish only when it is told a state, and then only if it has not
shown that state before.  `Trace.Prompted` says the first of a trace, and holds of the traces of all
operations; the second is said for a dispatch (`publications_callAll_of_told`), for a change of
state, and for the first start of a device.
-/

namespace DeviceTwin

/-- The states that a device was told in a trace, in their order. -/
def Trace.deliveries (t : Trace) (k : DeviceKey) : List Connection :=
  (t.calls.filter (·.observer = .device k)).map (·.state)

/-- The status changes that a device had to publish in a trace, in their order. -/
def Trace.publications (t : Trace) (k : DeviceKey) : List Status :=
  t.filterMap fun
    | .published key status => if key = k then some status else none
    | _ => none

/-- Only devices that are told something have something to publish. -/
def Trace.Prompted (t : Trace) : Prop := ∀ k, t.deliveries k = [] → t.publications k = []

namespace Trace

variable {t u : Trace} {k : DeviceKey}

theorem deliveries_eq_nil_iff :
    t.deliveries k = [] ↔ ∀ c ∈ t.calls, c.observer ≠ .device k := by
  simp [deliveries, List.filter_eq_nil_iff]

theorem deliveries_of_calls_eq_nil (h : t.calls = []) : t.deliveries k = [] := by
  simp [deliveries, h]

theorem deliveries_of_calls_eq_singleton {c : Call} (h : t.calls = [c]) :
    t.deliveries k = if c.observer = .device k then [c.state] else [] := by
  by_cases hc : c.observer = .device k
  · simp [deliveries, h, hc]
  · simp [deliveries, h, hc]

variable (k)

@[simp] theorem deliveries_append (t u : Trace) :
    deliveries (t ++ u) k = t.deliveries k ++ u.deliveries k := by
  simp [deliveries]

@[simp] theorem publications_nil : publications [] k = [] := rfl

@[simp] theorem publications_append (t u : Trace) :
    publications (t ++ u) k = t.publications k ++ u.publications k :=
  List.filterMap_append

@[simp] theorem publications_cons_called (remote : RemoteKey) (id : ObserverId)
    (observer : Observer) (state : Connection) (t : Trace) :
    publications (.called remote id observer state :: t) k = t.publications k := rfl

@[simp] theorem publications_cons_logged (record : Log.Record) (t : Trace) :
    publications (.logged record :: t) k = t.publications k := rfl

@[simp] theorem publications_cons_offered (key : DeviceKey) (sender : Sender)
    (delivery : Channel.Delivery) (t : Trace) :
    publications (.offered key sender delivery :: t) k = t.publications k := rfl

theorem publications_cons_published (key : DeviceKey) (status : Status) (t : Trace) :
    publications (.published key status :: t) k =
      (if key = k then [status] else []) ++ t.publications k := by
  by_cases h : key = k
  · simp [publications, h]
  · simp [publications, h]

@[simp] theorem publications_map_logged (records : List Log.Record) :
    publications (records.map .logged) k = [] := by
  induction records with
  | nil => rfl
  | cons record records ih => exact ih

theorem prompted_nil : Prompted [] := fun _ _ => rfl

theorem Prompted.append (ht : t.Prompted) (hu : u.Prompted) : Prompted (t ++ u) := by
  intro k h
  rw [deliveries_append, List.append_eq_nil_iff] at h
  rw [publications_append, ht k h.1, hu k h.2]
  rfl

theorem Prompted.logged (h : t.Prompted) (record : Log.Record) :
    Prompted (.logged record :: t) :=
  fun k hk => h k hk

end Trace

/-! ## One device -/

@[simp] theorem publications_offer (key : DeviceKey) (status : Status) (channels : List Channel)
    (senders : List Sender) (k : DeviceKey) :
    (offer key status channels senders).2.2.publications k = [] := by
  induction senders generalizing channels with
  | nil => rfl
  | cons sender rest ih =>
    rw [offer]
    split
    · exact ih _
    · split <;> simpa using ih _

/-- A device publishes a status once if it is new, and not at all if it is not. -/
theorem Device.publications_follow (key : DeviceKey) (channels : List Channel) (d : Device)
    (state : Connection) (k : DeviceKey) :
    (d.follow key channels state).2.2.publications k =
      if key = k ∧ d.status ≠ .ofConnection state then [.ofConnection state] else [] := by
  unfold Device.follow
  by_cases h : d.status = .ofConnection state
  · simp [h]
  · by_cases hk : key = k
    · simp [h, hk, Trace.publications_cons_published]
    · simp [h, hk, Trace.publications_cons_published]

namespace Site

variable {s : Site} {k : DeviceKey} {d : Device} (remote : RemoteKey) (state : Connection)

/-! ## Calls -/

section Call

variable (id : ObserverId) (observer : Observer) (upset : Bool)

theorem publications_call_of_device (hd : s.device? k = some d) :
    (s.call remote id (.device k) state upset).trace.publications k =
      if d.status = .ofConnection state then [] else [.ofConnection state] := by
  simp only [call, hd, Trace.publications_cons_called, Device.publications_follow, true_and]
  by_cases h : d.status = .ofConnection state
  · simp [h]
  · simp [h]

theorem deliveries_call : (s.call remote id observer state upset).trace.deliveries k =
    if observer = .device k then [state] else [] :=
  Trace.deliveries_of_calls_eq_singleton (calls_call ..)

theorem prompted_call : (s.call remote id observer state upset).trace.Prompted := by
  intro k hk
  rw [deliveries_call] at hk
  cases observer with
  | recorder => rfl
  | device key =>
    have hne : key ≠ k := by
      rintro rfl
      simp at hk
    unfold call
    dsimp only
    split
    · rfl
    · rw [Trace.publications_cons_called, Device.publications_follow, if_neg (fun h => hne h.1)]

end Call

variable (upset : List ObserverId) (observers : List (ObserverId × Observer))

theorem prompted_callAll : (s.callAll remote state upset observers).trace.Prompted := by
  induction observers generalizing s with
  | nil => exact Trace.prompted_nil
  | cons e rest ih =>
    simp only [callAll]
    split
    · exact prompted_call _ _ _ _ _
    · exact (prompted_call _ _ _ _ _).append (ih)

/-- A device that shows the state already has nothing to publish, however often it is told. -/
theorem publications_callAll_of_shown (hd : s.device? k = some d)
    (hstatus : d.status = .ofConnection state) :
    (s.callAll remote state upset observers).trace.publications k = [] := by
  induction observers generalizing s d with
  | nil => rfl
  | cons e rest ih =>
    have hfirst : (s.call remote e.1 e.2 state (e.1 ∈ upset)).trace.publications k = [] := by
      by_cases he : e.2 = .device k
      · rw [he, publications_call_of_device remote state e.1 _ hd, if_pos hstatus]
      · exact prompted_call _ _ _ _ _ k (by rw [deliveries_call, if_neg he])
    have hnext : ∃ d', (s.call remote e.1 e.2 state (e.1 ∈ upset)).site.device? k = some d' ∧
        d'.status = .ofConnection state := by
      by_cases he : e.2 = .device k
      · rw [he]
        obtain ⟨d', hd', htold⟩ := exists_device?_call remote state e.1 (decide (e.1 ∈ upset)) hd
        exact ⟨d', hd', htold.status⟩
      · exact ⟨d, by rw [device?_call_of_ne _ _ _ _ _ _ he, hd], hstatus⟩
    obtain ⟨d', hd', hstatus'⟩ := hnext
    simp only [callAll]
    split
    · exact hfirst
    · rw [Trace.publications_append, hfirst, ih hd' hstatus']
      rfl

/-- A device that is among the observers called has one status change to publish, unless it shows
the state already. -/
theorem publications_callAll_of_told {id : ObserverId} (hd : s.device? k = some d)
    (h : (id, .device k) ∈ told state upset observers) :
    (s.callAll remote state upset observers).trace.publications k =
      if d.status = .ofConnection state then [] else [.ofConnection state] := by
  induction observers generalizing s with
  | nil => simp [told] at h
  | cons e rest ih =>
    by_cases he : e.2 = .device k
    · -- The device is called first; whatever calls of it follow, it has nothing more to publish.
      obtain ⟨d', hd', htold⟩ := exists_device?_call remote state e.1 (decide (e.1 ∈ upset)) hd
      have hrest := publications_callAll_of_shown remote state upset rest hd' htold.status
      have hfirst := publications_call_of_device remote state e.1 (decide (e.1 ∈ upset)) hd
      simp [callAll, he, Observer.fails, hfirst, hrest]
    · by_cases hb : e.2.fails state (e.1 ∈ upset)
      · have hsame : (id, Observer.device k) = e := by simpa [told, breaksAt, hb] using h
        exact absurd (congrArg Prod.snd hsame).symm he
      · have hne : (id, Observer.device k) ≠ e := fun heq => he (congrArg Prod.snd heq).symm
        have hrest : (id, .device k) ∈ told state upset rest := by
          simpa [told, breaksAt, hb, hne] using h
        have hfirst : (s.call remote e.1 e.2 state (e.1 ∈ upset)).trace.publications k = [] :=
          prompted_call _ _ _ _ _ k (by rw [deliveries_call, if_neg he])
        have hnext : (s.call remote e.1 e.2 state (e.1 ∈ upset)).site.device? k = some d := by
          rw [device?_call_of_ne _ _ _ _ _ _ he, hd]
        simp [callAll, hb, hfirst, ih hnext hrest]

/-! ## Operations -/

section Operations

variable {key : RemoteKey} {r : Remote}

theorem trace_setState (hr : s.remote? key = some r) (hp : r.poisoned = false)
    (hs : r.state ≠ state) :
    (s.setState key state upset).trace = .logged (.remoteChanged r.name state) ::
      ((s.modifyRemote key ({ · with state })).callAll key state upset r.observers).trace := by
  simp only [setState, hr, hp, hs, Bool.false_eq_true, if_false]
  split <;> rfl

theorem prompted_setState : (s.setState key state upset).trace.Prompted := by
  cases hr : s.remote? key with
  | none =>
    rw [setState_of_dangling hr]
    exact Trace.prompted_nil
  | some r =>
    by_cases hp : r.poisoned = true
    · rw [setState_of_poisoned hr hp]
      exact Trace.prompted_nil
    · have hp : r.poisoned = false := by simpa using hp
      by_cases hs : r.state = state
      · rw [setState_of_eq hr hp hs]
        exact Trace.prompted_nil.logged _
      · rw [trace_setState state upset hr hp hs]
        exact (prompted_callAll _ _ _ _).logged _

theorem publications_setState_of_told {id : ObserverId} (hr : s.remote? key = some r)
    (hp : r.poisoned = false) (hs : r.state ≠ state) (hd : s.device? k = some d)
    (h : (id, .device k) ∈ told state upset r.observers) :
    (s.setState key state upset).trace.publications k =
      if d.status = .ofConnection state then [] else [.ofConnection state] := by
  rw [trace_setState state upset hr hp hs, Trace.publications_cons_logged]
  apply publications_callAll_of_told
  · rwa [device?_modifyRemote]
  · exact h

/-- A device stands once among the observers of a remote, or among some of them. -/
theorem Sound.filter_device (h : s.Sound) (hr : s.remote? key = some r)
    {observers : List (ObserverId × Observer)} (hsub : observers.Sublist r.observers)
    {id : ObserverId} (hmem : (id, .device k) ∈ observers) :
    observers.filter (·.2 = .device k) = [(id, .device k)] := by
  have hsound := h.remote hr
  have hsame : ∀ x ∈ observers, x.2 = .device k ↔ x.1 = id := by
    rintro ⟨number, observer⟩ hx
    constructor
    · rintro rfl
      obtain ⟨d, hd, -, hid⟩ := h.observed hr (hsub.subset hmem)
      obtain ⟨d₁, hd₁, -, hid₁⟩ := h.observed hr (hsub.subset hx)
      obtain rfl : d = d₁ := Option.some.inj (hd.symm.trans hd₁)
      exact Option.some.inj (hid₁.symm.trans hid)
    · intro hid
      exact congrArg Prod.snd (hsound.eq_of_mem (hsub.subset hx) (hsub.subset hmem) hid)
  rw [← filter_eq_singleton (hsound.ordered.sublist hsub) hmem]
  apply List.filter_congr
  intro x hx
  simpa using hsame x hx

/-- A device that is among the observers called by a change is told it once. -/
theorem Sound.deliveries_of_told (h : s.Sound) (hr : s.remote? key = some r) {e : Effect Unit}
    (he : StateChanged s key state upset r e) {id : ObserverId}
    (hmem : (id, .device k) ∈ told state upset r.observers) : e.trace.deliveries k = [state] := by
  have hfilter := h.filter_device hr told_isPrefix.sublist hmem
  rw [Trace.deliveries, he.calls, List.filter_map, List.map_map]
  exact congrArg (List.map fun _ => state) hfilter

/-- A recorder that is added is no call of a device. -/
theorem deliveries_subscribe_recorder (label : Text) (failsOn : Option Connection) :
    (s.subscribe key (.recorder label failsOn)).trace.deliveries k = [] := by
  cases hresult : (s.subscribe key (.recorder label failsOn)).result with
  | ok id =>
    obtain ⟨r, -, -, -, -, hcalls⟩ := subscribe_recorder_eq_ok hresult
    rw [Trace.deliveries_of_calls_eq_singleton hcalls, if_neg nofun]
  | error panic =>
    rcases subscribe_recorder_eq_error hresult with ⟨-, hcalls, -⟩ | ⟨r, -, -, -, -, -, hcalls⟩
    · exact Trace.deliveries_of_calls_eq_nil hcalls
    · rw [Trace.deliveries_of_calls_eq_singleton hcalls, if_neg nofun]

theorem prompted_subscribe (observer : Observer) : (s.subscribe key observer).trace.Prompted := by
  unfold subscribe
  split
  · exact Trace.prompted_nil
  · split
    · exact Trace.prompted_nil
    · dsimp only
      split
      · exact prompted_call _ _ _ _ _
      · exact (prompted_call _ _ _ _ _).append (Trace.prompted_nil.logged _)

theorem prompted_unsubscribe (id : ObserverId) : (s.unsubscribe key id).2.Prompted := by
  unfold unsubscribe
  split
  · exact Trace.prompted_nil
  · exact Trace.prompted_nil.logged _

theorem prompted_dropDevice : (s.dropDevice k).2.Prompted := by
  unfold dropDevice
  split
  · exact Trace.prompted_nil
  · dsimp only
    split
    · exact prompted_unsubscribe _
    · exact Trace.prompted_nil

/-- A device that is started publishes the state of its remote. -/
theorem publications_start (hd : s.device? k = some d) (hr : s.remote? d.remote = some r)
    (hp : r.poisoned = false) (hs : d.started = false) (hsub : d.subscription = none)
    (hstatus : d.status = .stopped) :
    (s.start k).trace.publications k = [.ofConnection r.state] := by
  have hd₁ : (s.modifyDevice k ({ · with started := true })).device? k =
      some { d with started := true } := by simp [hd]
  have hne : d.status ≠ .ofConnection r.state := by
    rw [hstatus]
    exact Status.ofConnection_ne_stopped.symm
  have hcall : (s.startCall k d r).trace.publications k = [.ofConnection r.state] := by
    rw [startCall, publications_call_of_device d.remote r.state r.nextObserver false hd₁]
    exact if_neg hne
  rw [start_of_unstarted hd hr hp hs hsub]
  simp [hcall]

theorem prompted_start : (s.start k).trace.Prompted := by
  unfold start
  split
  · exact Trace.prompted_nil
  · split
    · exact Trace.prompted_nil
    · split
      · exact Trace.prompted_nil
      · dsimp only
        split
        · exact (prompted_subscribe _).logged _
        · split
          · exact ((prompted_subscribe _).logged _).append (prompted_unsubscribe _)
          · exact (prompted_subscribe _).logged _

end Operations

end Site

end DeviceTwin
