import DeviceTwin.Site.Notify

/-!
# Dispatches

A dispatch calls the observers in a list one after the other until one fails.  This module says
what it brings about: which observers are called (`calls_callAll`), when it fails
(`failed_callAll`), and what becomes of each device.  A device among those called is brought in
line with the new state, any other device is left alone, and remotes are never touched.

Senders and channels are left out of these statements: what a device shows does not depend on
where it publishes.
-/

namespace DeviceTwin

/-! ## The calls in a trace -/

/-- One call of an observer. -/
structure Call where
  remote : RemoteKey
  id : ObserverId
  observer : Observer
  state : Connection
  deriving DecidableEq, Repr

/-- The calls in a trace, those of all remotes, in their order. -/
def Trace.calls (t : Trace) : List Call :=
  t.filterMap fun
    | .called remote id observer state => some { remote, id, observer, state }
    | _ => none

/-- The calls of observers of one remote in a trace. -/
def Trace.callsOf (t : Trace) (key : RemoteKey) : List Call := t.calls.filter (·.remote = key)

namespace Trace

@[simp] theorem calls_nil : calls [] = [] := rfl

@[simp] theorem calls_append (t u : Trace) : calls (t ++ u) = t.calls ++ u.calls :=
  List.filterMap_append

@[simp] theorem calls_cons_called (remote : RemoteKey) (id : ObserverId) (observer : Observer)
    (state : Connection) (t : Trace) :
    calls (.called remote id observer state :: t) =
      { remote, id, observer, state } :: t.calls := rfl

@[simp] theorem calls_cons_logged (record : Log.Record) (t : Trace) :
    calls (.logged record :: t) = t.calls := rfl

@[simp] theorem calls_cons_published (key : DeviceKey) (status : Status) (t : Trace) :
    calls (.published key status :: t) = t.calls := rfl

@[simp] theorem calls_cons_offered (key : DeviceKey) (sender : Sender)
    (delivery : Channel.Delivery) (t : Trace) :
    calls (.offered key sender delivery :: t) = t.calls := rfl

@[simp] theorem calls_map_logged (records : List Log.Record) :
    calls (records.map .logged) = [] := by
  induction records with
  | nil => rfl
  | cons r records ih => simpa using ih

@[simp] theorem callsOf_append (t u : Trace) (key : RemoteKey) :
    callsOf (t ++ u) key = t.callsOf key ++ u.callsOf key := by
  simp [callsOf]

theorem callsOf_of_calls_eq_nil {t : Trace} (h : t.calls = []) (key : RemoteKey) :
    t.callsOf key = [] := by
  simp [callsOf, h]

end Trace

/-! ## The observers that are called -/

section Told

variable (state : Connection) (upset : List ObserverId)

/-- Whether a numbered observer fails when it is told a state. -/
def breaksAt (e : ObserverId × Observer) : Bool := e.2.fails state (e.1 ∈ upset)

/-- The observers that are called: all up to the first one that fails. -/
def told : List (ObserverId × Observer) → List (ObserverId × Observer)
  | [] => []
  | e :: rest => e :: if breaksAt state upset e then [] else told rest

variable {state upset} {observers before after : List (ObserverId × Observer)}
  {e : ObserverId × Observer}

theorem told_isPrefix : told state upset observers <+: observers := by
  induction observers with
  | nil => exact List.prefix_refl _
  | cons e rest ih =>
    rw [told, List.cons_prefix_cons]
    refine ⟨rfl, ?_⟩
    split
    · exact List.nil_prefix
    · exact ih

theorem mem_of_mem_told (h : e ∈ told state upset observers) : e ∈ observers :=
  told_isPrefix.subset h

theorem told_eq_self (h : ∀ e ∈ observers, breaksAt state upset e = false) :
    told state upset observers = observers := by
  induction observers with
  | nil => rfl
  | cons e rest ih =>
    have hrest : ∀ x ∈ rest, breaksAt state upset x = false := fun x hx => h x (by simp [hx])
    simp [told, h e (by simp), ih hrest]

theorem told_eq_append (hbefore : ∀ x ∈ before, breaksAt state upset x = false)
    (he : breaksAt state upset e = true) :
    told state upset (before ++ e :: after) = before ++ [e] := by
  induction before with
  | nil => simp [told, he]
  | cons x before ih =>
    have hrest : ∀ y ∈ before, breaksAt state upset y = false :=
      fun y hy => hbefore y (by simp [hy])
    simp [told, hbefore x (by simp), ih hrest]

/-- If an observer fails, one of them is the first to do so. -/
theorem exists_first_breaking (h : observers.any (breaksAt state upset) = true) :
    ∃ before e after, observers = before ++ e :: after ∧
      (∀ x ∈ before, breaksAt state upset x = false) ∧ breaksAt state upset e = true := by
  induction observers with
  | nil => simp at h
  | cons x rest ih =>
    by_cases hx : breaksAt state upset x
    · exact ⟨[], x, rest, rfl, by simp, hx⟩
    · have hx : breaksAt state upset x = false := by simpa using hx
      obtain ⟨before, e, after, rfl, hbefore, he⟩ := ih (by simpa [hx] using h)
      refine ⟨x :: before, e, after, rfl, ?_, he⟩
      intro y hy
      rcases List.mem_cons.1 hy with rfl | hy
      · exact hx
      · exact hbefore y hy

theorem breaksAt_device (id : ObserverId) (key : DeviceKey) :
    breaksAt state upset (id, .device key) = false := rfl

/-- Nothing fails where only devices observe. -/
theorem any_breaksAt_of_devices (h : ∀ e ∈ observers, ∃ key, e.2 = .device key) :
    observers.any (breaksAt state upset) = false := by
  rw [List.any_eq_false]
  intro e he
  obtain ⟨key, hkey⟩ := h e he
  simp [breaksAt, hkey, Observer.fails]

/-- Among observers with increasing numbers, each occurs once. -/
theorem filter_eq_singleton (hordered : observers.Pairwise (·.1 < ·.1)) (he : e ∈ observers) :
    observers.filter (·.1 = e.1) = [e] := by
  induction observers with
  | nil => simp at he
  | cons x rest ih =>
    obtain ⟨hx, hrest⟩ := List.pairwise_cons.1 hordered
    rcases List.mem_cons.1 he with rfl | he
    · have hnone : rest.filter (·.1 = e.1) = [] := by
        rw [List.filter_eq_nil_iff]
        intro y hy heq
        have heq : y.1 = e.1 := by simpa using heq
        exact Nat.lt_irrefl _ (heq ▸ hx y hy)
      simp [hnone]
    · have hne : x.1 ≠ e.1 := Nat.ne_of_lt (hx e he)
      simp [hne, ih hrest he]

end Told

/-! ## Bringing one device in line -/

/-- What being told a state makes of a device, apart from its senders. -/
structure Device.Told (state : Connection) (d d' : Device) : Prop where
  remote : d'.remote = d.remote
  started : d'.started = d.started
  subscription : d'.subscription = d.subscription
  status : d'.status = .ofConnection state
  model : d'.model = (d.model.follow state).1

theorem Model.follow_follow (m : Model) (state : Connection) :
    ((m.follow state).1.follow state).1 = (m.follow state).1 := by
  cases state <;> by_cases h : m.loaded <;> simp [follow, load, unload, h]

/-- Being told the same state once more changes nothing. -/
theorem Device.Told.trans {state : Connection} {d d' d'' : Device} (h : d.Told state d')
    (h' : d'.Told state d'') : d.Told state d'' where
  remote := h'.remote.trans h.remote
  started := h'.started.trans h.started
  subscription := h'.subscription.trans h.subscription
  status := h'.status
  model := by rw [h'.model, h.model, Model.follow_follow]

theorem calls_offer (key : DeviceKey) (status : Status) (channels : List Channel)
    (senders : List Sender) : (offer key status channels senders).2.2.calls = [] := by
  induction senders generalizing channels with
  | nil => rfl
  | cons sender rest ih =>
    rw [offer]
    split
    · exact ih _
    · split <;> simpa using ih _

theorem Device.told_follow (key : DeviceKey) (channels : List Channel) (d : Device)
    (state : Connection) : d.Told state (d.follow key channels state).2.1 := by
  unfold Device.follow
  by_cases h : d.status = .ofConnection state
  · simp only [h, if_true]
    exact ⟨rfl, rfl, rfl, rfl, rfl⟩
  · simp only [h, if_false]
    exact ⟨rfl, rfl, rfl, rfl, rfl⟩

theorem Device.calls_follow (key : DeviceKey) (channels : List Channel) (d : Device)
    (state : Connection) : (d.follow key channels state).2.2.calls = [] := by
  unfold Device.follow
  by_cases h : d.status = .ofConnection state
  · simp [h]
  · simp [h, calls_offer]

namespace Site

theorem lt_length_of_remote? {s : Site} {key : RemoteKey} {r : Remote}
    (h : s.remote? key = some r) : key < s.remotes.length := by
  obtain ⟨hlt, -⟩ := List.getElem?_eq_some_iff.1 h
  exact hlt

theorem lt_length_of_device? {s : Site} {key : DeviceKey} {d : Device}
    (h : s.device? key = some d) : key < s.devices.length := by
  rcases Nat.lt_or_ge key s.devices.length with hlt | hge
  · exact hlt
  · simp [device?, List.getElem?_eq_none hge] at h

variable (s : Site) (remote : RemoteKey) (state : Connection)

/-! ## One call -/

section OneCall

variable (id : ObserverId) (observer : Observer) (upset : Bool)

@[simp] theorem remotes_call :
    (s.call remote id observer state upset).site.remotes = s.remotes := by
  unfold call
  split
  · rfl
  · split <;> rfl

@[simp] theorem length_devices_call :
    (s.call remote id observer state upset).site.devices.length = s.devices.length := by
  unfold call
  split
  · rfl
  · split <;> simp

@[simp] theorem failed_call :
    (s.call remote id observer state upset).failed = observer.fails state upset := by
  unfold call
  split
  · rfl
  · split <;> rfl

@[simp] theorem calls_call :
    (s.call remote id observer state upset).trace.calls =
      [{ remote, id, observer, state }] := by
  unfold call
  split
  · rfl
  · split
    · rfl
    · simp [Device.calls_follow]

/-- A recorder changes nothing. -/
@[simp] theorem site_call_recorder (label : Text) (failsOn : Option Connection) :
    (s.call remote id (.recorder label failsOn) state upset).site = s := rfl

/-- A call of a device leaves all other devices alone. -/
theorem device?_call_of_ne {key : DeviceKey} (h : observer ≠ .device key) :
    (s.call remote id observer state upset).site.device? key = s.device? key := by
  cases observer with
  | recorder => rfl
  | device k =>
    have hk : k ≠ key := fun e => h (e ▸ rfl)
    unfold call
    dsimp only
    split
    · rfl
    · simp [device?, hk]

variable {s}

/-- A device that is called is brought in line. -/
theorem exists_device?_call {key : DeviceKey} {d : Device} (h : s.device? key = some d) :
    ∃ d', (s.call remote id (.device key) state upset).site.device? key = some d' ∧
      d.Told state d' := by
  refine ⟨(d.follow key s.channels state).2.1, ?_, Device.told_follow ..⟩
  have hlt : key < s.devices.length := lt_length_of_device? h
  simp only [call, h]
  simp [device?, hlt]

end OneCall

/-! ## All calls -/

variable (upset : List ObserverId) (observers : List (ObserverId × Observer))

@[simp] theorem remotes_callAll :
    (s.callAll remote state upset observers).site.remotes = s.remotes := by
  induction observers generalizing s with
  | nil => rfl
  | cons e rest ih =>
    simp only [callAll]
    split
    · simp
    · simp [ih]

@[simp] theorem length_devices_callAll :
    (s.callAll remote state upset observers).site.devices.length = s.devices.length := by
  induction observers generalizing s with
  | nil => rfl
  | cons e rest ih =>
    simp only [callAll]
    split
    · simp
    · simp [ih]

@[simp] theorem failed_callAll :
    (s.callAll remote state upset observers).failed = observers.any (breaksAt state upset) := by
  induction observers generalizing s with
  | nil => rfl
  | cons e rest ih =>
    by_cases h : e.2.fails state (e.1 ∈ upset)
    · simp [callAll, breaksAt, h]
    · simp [callAll, breaksAt, h, ih]

@[simp] theorem calls_callAll :
    (s.callAll remote state upset observers).trace.calls =
      (told state upset observers).map fun e => { remote, id := e.1, observer := e.2, state } := by
  induction observers generalizing s with
  | nil => rfl
  | cons e rest ih =>
    by_cases h : e.2.fails state (e.1 ∈ upset)
    · simp [callAll, told, breaksAt, h]
    · simp [callAll, told, breaksAt, h, ih]

/-- A device that is not among the observers called is left alone. -/
theorem device?_callAll_of_not_told {key : DeviceKey}
    (h : ∀ id, (id, .device key) ∉ told state upset observers) :
    (s.callAll remote state upset observers).site.device? key = s.device? key := by
  induction observers generalizing s with
  | nil => rfl
  | cons e rest ih =>
    have he : e.2 ≠ .device key := fun heq => h e.1 (by simp [told, ← heq])
    have hfirst := device?_call_of_ne s remote state e.1 e.2 (decide (e.1 ∈ upset)) he
    by_cases hb : e.2.fails state (e.1 ∈ upset)
    · simpa [callAll, hb] using hfirst
    · have hrest : ∀ id, (id, .device key) ∉ told state upset rest := by
        intro id hid
        exact h id (by simp [told, breaksAt, hb, hid])
      simpa [callAll, hb, hfirst] using ih (s.call remote e.1 e.2 state (e.1 ∈ upset)).site hrest

/-- A device is brought in line or left alone. -/
theorem exists_device?_callAll {key : DeviceKey} {d : Device} (hd : s.device? key = some d) :
    ∃ d', (s.callAll remote state upset observers).site.device? key = some d' ∧
      (d' = d ∨ d.Told state d') := by
  induction observers generalizing s d with
  | nil => exact ⟨d, hd, Or.inl rfl⟩
  | cons e rest ih =>
    have hfirst : ∃ d', (s.call remote e.1 e.2 state (e.1 ∈ upset)).site.device? key = some d' ∧
        (d' = d ∨ d.Told state d') := by
      by_cases he : e.2 = .device key
      · rw [he]
        obtain ⟨d', hd', htold⟩ := exists_device?_call remote state e.1 (decide (e.1 ∈ upset)) hd
        exact ⟨d', hd', Or.inr htold⟩
      · exact ⟨d, by rw [device?_call_of_ne _ _ _ _ _ _ he, hd], Or.inl rfl⟩
    obtain ⟨d', hd', hstep⟩ := hfirst
    by_cases hb : e.2.fails state (e.1 ∈ upset)
    · exact ⟨d', by simpa [callAll, hb] using hd', hstep⟩
    · obtain ⟨d'', hd'', hrest⟩ := ih _ hd'
      refine ⟨d'', by simpa [callAll, hb] using hd'', ?_⟩
      rcases hstep with rfl | hstep
      · exact hrest
      · rcases hrest with rfl | hrest
        · exact Or.inr hstep
        · exact Or.inr (hstep.trans hrest)

/-- A device that is among the observers called is brought in line. -/
theorem exists_device?_callAll_of_told {key : DeviceKey} {d : Device} {id : ObserverId}
    (hd : s.device? key = some d) (h : (id, .device key) ∈ told state upset observers) :
    ∃ d', (s.callAll remote state upset observers).site.device? key = some d' ∧
      d.Told state d' := by
  induction observers generalizing s d with
  | nil => simp [told] at h
  | cons e rest ih =>
    by_cases he : e.2 = .device key
    · -- The device is called first; whatever calls of it follow change nothing more.
      obtain ⟨d', hd', htold⟩ := exists_device?_call remote state e.1 (decide (e.1 ∈ upset)) hd
      obtain ⟨d'', hd'', hrest⟩ := exists_device?_callAll _ remote state upset rest hd'
      refine ⟨d'', ?_, ?_⟩
      · simpa [callAll, he, Observer.fails] using hd''
      · rcases hrest with rfl | hrest
        · exact htold
        · exact htold.trans hrest
    · by_cases hb : e.2.fails state (e.1 ∈ upset)
      · have : (id, Observer.device key) = e := by simpa [told, breaksAt, hb] using h
        exact absurd (congrArg Prod.snd this).symm he
      · have hne : (id, Observer.device key) ≠ e := fun heq => he (congrArg Prod.snd heq).symm
        have hrest : (id, .device key) ∈ told state upset rest := by
          simpa [told, breaksAt, hb, hne] using h
        have hfirst : (s.call remote e.1 e.2 state (e.1 ∈ upset)).site.device? key = some d := by
          rw [device?_call_of_ne _ _ _ _ _ _ he, hd]
        simpa [callAll, hb] using ih _ hfirst hrest

end Site

end DeviceTwin
