import DeviceTwin.Proofs.Site.Soundness

/-!
# One remote at a time

Seen from one remote, an operation on the site is one of few things: nothing happens, an observer
leaves, one comes and gets its sample, one fails on its sample, or the state changes and the
observers are called.  `Remote.Step` lists them with the calls that go with them.  A poisoned
remote can still lose observers and do nothing else (`Remote.Step.of_poisoned`).
-/

namespace DeviceTwin

/-- What can happen to a remote in one go: the calls of its observers, and the remote after it. -/
inductive Remote.Step (key : RemoteKey) (r : Remote) : List Call → Remote → Prop where
  | quiet : Step key r [] r
  | lost (id : ObserverId) : Step key r [] (r.lose id)
  | gained (observer : Observer) (unpoisoned : r.poisoned = false) :
      Step key r [⟨key, r.nextObserver, observer, r.state⟩] (r.gain observer)
  /-- An observer comes, and then an older one leaves. -/
  | exchanged (observer : Observer) (unpoisoned : r.poisoned = false) (id : ObserverId)
      (older : id < r.nextObserver) :
      Step key r [⟨key, r.nextObserver, observer, r.state⟩] ((r.gain observer).lose id)
  /-- An observer fails on its sample. -/
  | refused (observer : Observer) (unpoisoned : r.poisoned = false)
      (fails : observer.fails r.state false = true) :
      Step key r [⟨key, r.nextObserver, observer, r.state⟩] { r with poisoned := true }
  | changed (state : Connection) (upset : List ObserverId) (unpoisoned : r.poisoned = false)
      (change : r.state ≠ state) :
      Step key r ((told state upset r.observers).map fun e => ⟨key, e.1, e.2, state⟩)
        { r with state, poisoned := r.observers.any (breaksAt state upset) }

namespace Remote.Step

variable {key : RemoteKey} {r r' : Remote} {calls : List Call}

/-- Numbers are not given away twice. -/
theorem nextObserver_le (h : Step key r calls r') : r.nextObserver ≤ r'.nextObserver := by
  cases h with
  | gained => exact Nat.le_succ _
  | exchanged => exact Nat.le_succ _
  | quiet | lost | refused | changed => exact Nat.le_refl _

theorem nextObserver_le_succ (h : Step key r calls r') :
    r'.nextObserver ≤ r.nextObserver + 1 := by
  cases h with
  | gained => exact Nat.le_refl _
  | exchanged => exact Nat.le_refl _
  | quiet | lost | refused | changed => exact Nat.le_succ _

/-- A number is given away only with a call. -/
theorem nextObserver_eq (h : Step key r calls r') (hcalls : ∀ c ∈ calls, c.id ≠ r.nextObserver) :
    r'.nextObserver = r.nextObserver := by
  cases h with
  | quiet | lost | refused | changed => rfl
  | gained | exchanged => exact absurd rfl (hcalls _ (List.mem_singleton_self _))

/-- An observer was there before or has a new number. -/
theorem mem_observers (h : Step key r calls r') {e : ObserverId × Observer}
    (he : e ∈ r'.observers) : e ∈ r.observers ∨ e.1 = r.nextObserver := by
  cases h with
  | quiet | refused | changed => exact Or.inl he
  | lost id => exact Or.inl (mem_observers_lose.1 he).1
  | gained observer =>
    rcases mem_observers_gain.1 he with he | rfl
    · exact Or.inl he
    · exact Or.inr rfl
  | exchanged observer _ id =>
    rcases mem_observers_gain.1 (mem_observers_lose.1 he).1 with he | rfl
    · exact Or.inl he
    · exact Or.inr rfl

/-- A poisoned remote stays so, keeps its state and calls nobody. -/
theorem of_poisoned (h : Step key r calls r') (hp : r.poisoned = true) :
    r'.poisoned = true ∧ r'.state = r.state ∧ calls = [] := by
  cases h with
  | quiet => exact ⟨hp, rfl, rfl⟩
  | lost => exact ⟨hp, rfl, rfl⟩
  | gained _ hnot | exchanged _ hnot | refused _ hnot | changed _ _ hnot => simp [hp] at hnot

/-- A remote of which no observer is called is not poisoned then. -/
theorem poisoned_of_nil (h : Step key r calls r') (hcalls : calls = []) :
    r'.poisoned = r.poisoned := by
  cases h with
  | quiet | lost => rfl
  | gained | exchanged | refused => simp at hcalls
  | changed state upset hp hs =>
    have hnil : told state upset r.observers = [] := by simpa using hcalls
    cases hobs : r.observers with
    | nil => simp [hp]
    | cons e rest => simp [hobs, told] at hnil

/-- An observer that is called has a number that was given away, or gets it now; only one that
fails on its sample does not get it. -/
theorem lt_nextObserver_of_mem_calls (h : Step key r calls r') (hr : r.Sound) {c : Call}
    (hc : c ∈ calls) : c.id < r'.nextObserver ∨ r'.poisoned = true := by
  cases h with
  | quiet | lost => simp at hc
  | gained | exchanged =>
    rw [List.mem_singleton.1 hc]
    exact Or.inl (Nat.lt_succ_self _)
  | refused => exact Or.inr rfl
  | changed =>
    obtain ⟨e, he, rfl⟩ := List.mem_map.1 hc
    exact Or.inl (hr.numbered e (mem_of_mem_told he))

end Remote.Step

namespace Site

variable {s : Site} {key other : RemoteKey} {r : Remote} {k : DeviceKey}

theorem step_setState (key : RemoteKey) (hr : s.remote? other = some r) (state : Connection)
    (upset : List ObserverId) :
    ∃ r', (s.setState key state upset).site.remote? other = some r' ∧
      Remote.Step other r ((s.setState key state upset).trace.callsOf other) r' ∧
        (r'.poisoned = r.poisoned ∨
          (s.setState key state upset).result = .error .observerFailed) ∧
            (r'.state = r.state ∨ key = other) := by
  rcases setState_cases s key state upset with ⟨hsite, hcalls, -⟩ | ⟨r₀, hr₀, hp, hs, he⟩
  · rw [hsite, Trace.callsOf_of_calls_eq_nil hcalls]
    exact ⟨r, hr, .quiet, Or.inl rfl, Or.inl rfl⟩
  · rw [he.remote?, Trace.callsOf, he.calls]
    by_cases h : key = other
    · subst h
      obtain rfl : r₀ = r := by simpa [hr₀] using hr
      refine ⟨_, if_pos rfl, ?_, ?_, Or.inr rfl⟩
      · rw [List.filter_eq_self.2]
        · exact .changed state upset hp hs
        · intro c hc
          obtain ⟨e, -, rfl⟩ := List.mem_map.1 hc
          simp
      · by_cases hany : r₀.observers.any (breaksAt state upset) = true
        · exact Or.inr (by rw [he.result, if_pos hany])
        · exact Or.inl (by simpa [hp] using hany)
    · refine ⟨r, by rw [if_neg h, hr], ?_, Or.inl rfl, Or.inl rfl⟩
      rw [List.filter_eq_nil_iff.2]
      · exact .quiet
      · intro c hc
        obtain ⟨e, -, rfl⟩ := List.mem_map.1 hc
        simp [h]

theorem step_subscribe_of_error (hr : s.remote? other = some r) {label : Text}
    {failsOn : Option Connection} {panic : Panic}
    (h : (s.subscribe key (.recorder label failsOn)).result = .error panic) :
    ∃ r', (s.subscribe key (.recorder label failsOn)).site.remote? other = some r' ∧
      Remote.Step other r ((s.subscribe key (.recorder label failsOn)).trace.callsOf other) r' ∧
        (r'.poisoned = r.poisoned ∨ panic = .observerFailed) ∧ r'.state = r.state := by
  rcases subscribe_recorder_eq_error h with
    ⟨hsite, hcalls, -⟩ | ⟨r₀, hr₀, hp, hf, hpanic, hsite, hcalls⟩
  · rw [hsite, Trace.callsOf_of_calls_eq_nil hcalls]
    exact ⟨r, hr, .quiet, Or.inl rfl, rfl⟩
  · rw [hsite, Trace.callsOf, hcalls, remote?_modifyRemote]
    by_cases h : key = other
    · subst h
      obtain rfl : r₀ = r := by simpa [hr₀] using hr
      refine ⟨{ r₀ with poisoned := true }, by simp [hr₀], ?_, Or.inr hpanic, rfl⟩
      simpa using .refused (.recorder label failsOn) hp (by simp [Observer.fails, hf])
    · refine ⟨r, by simp [h, hr], ?_, Or.inl rfl, rfl⟩
      simpa [h] using .quiet

theorem step_start (hs : s.Sound) (hr : s.remote? other = some r) (k : DeviceKey) :
    ∃ r', (s.start k).site.remote? other = some r' ∧
      Remote.Step other r ((s.start k).trace.callsOf other) r' ∧
        r'.poisoned = r.poisoned ∧ r'.state = r.state := by
  rcases hs.start_cases k with ⟨hsite, hcalls, -⟩ | ⟨d, r₀, -, hr₀, hp, -, -, he⟩
  · rw [hsite, Trace.callsOf_of_calls_eq_nil hcalls]
    exact ⟨r, hr, .quiet, rfl, rfl⟩
  · rw [he.remote?, Trace.callsOf, he.calls]
    by_cases h : d.remote = other
    · subst h
      obtain rfl : r₀ = r := by simpa [hr₀] using hr
      exact ⟨_, if_pos rfl, by simpa using .gained (.device k) hp, rfl, rfl⟩
    · exact ⟨r, by rw [if_neg h, hr], by simpa [h] using .quiet, rfl, rfl⟩

/-- Dropping a device is no event for a remote, or takes one observer from it. -/
theorem step_dropDevice (hr : s.remote? other = some r) (k : DeviceKey) :
    ∃ r', (s.dropDevice k).1.remote? other = some r' ∧
      Remote.Step other r ((s.dropDevice k).2.callsOf other) r' ∧
        r'.poisoned = r.poisoned ∧ r'.state = r.state := by
  rw [Trace.callsOf_of_calls_eq_nil (calls_dropDevice s k)]
  cases hd : s.device? k with
  | none =>
    refine ⟨r, ?_, .quiet, rfl, rfl⟩
    simpa [dropDevice, hd] using hr
  | some d =>
    rw [remote?_dropDevice hd]
    cases d.subscription with
    | none => exact ⟨r, hr, .quiet, rfl, rfl⟩
    | some id =>
      by_cases h : d.remote = other
      · exact ⟨r.lose id, by simp [h, hr], .lost id, rfl, rfl⟩
      · exact ⟨r, by simp [h, hr], .quiet, rfl, rfl⟩

/-! ## Operations that take no observer away -/

/-- Every remote of a site is still there with all the observers that it had. -/
def Keeps (s s' : Site) : Prop :=
  ∀ key r, s.remote? key = some r → ∃ r', s'.remote? key = some r' ∧
    ∀ e ∈ r.observers, e ∈ r'.observers

theorem keeps_of_eq {s' : Site} (h : s'.remotes = s.remotes) : s.Keeps s' := fun _ r hr =>
  ⟨r, by simpa [remote?, h] using hr, fun _ => id⟩

theorem keeps_modifyRemote (s : Site) (key : RemoteKey) {f : Remote → Remote}
    (hf : ∀ r, ∀ e ∈ r.observers, e ∈ (f r).observers) : s.Keeps (s.modifyRemote key f) := by
  intro other r hr
  by_cases h : key = other
  · exact ⟨f r, by simp [h, hr], hf r⟩
  · exact ⟨r, by simp [h, hr], fun _ => id⟩

theorem keeps_setState (s : Site) (key : RemoteKey) (state : Connection)
    (upset : List ObserverId) : s.Keeps (s.setState key state upset).site := by
  rcases setState_cases s key state upset with ⟨hsite, -⟩ | ⟨r₀, hr₀, -, -, he⟩
  · rw [hsite]
    exact keeps_of_eq rfl
  · intro other r hr
    rw [he.remote?]
    by_cases h : key = other
    · subst h
      obtain rfl : r₀ = r := by simpa [hr₀] using hr
      exact ⟨_, if_pos rfl, fun _ => id⟩
    · exact ⟨r, by rw [if_neg h, hr], fun _ => id⟩

theorem keeps_subscribe_recorder (s : Site) (key : RemoteKey) (label : Text)
    (failsOn : Option Connection) :
    s.Keeps (s.subscribe key (.recorder label failsOn)).site := by
  cases hresult : (s.subscribe key (.recorder label failsOn)).result with
  | error panic =>
    rcases subscribe_recorder_eq_error hresult with ⟨hsite, -⟩ | ⟨r, -, -, -, -, hsite, -⟩
    · rw [hsite]
      exact keeps_of_eq rfl
    · rw [hsite]
      exact keeps_modifyRemote s key fun _ _ => id
  | ok id =>
    obtain ⟨r, -, -, -, hsite, -⟩ := subscribe_recorder_eq_ok hresult
    rw [hsite]
    exact keeps_modifyRemote s key fun r e he => Remote.mem_observers_gain.2 (Or.inl he)

theorem Sound.keeps_start (h : s.Sound) (k : DeviceKey) : s.Keeps (s.start k).site := by
  rcases h.start_cases k with ⟨hsite, -⟩ | ⟨d, r₀, -, hr₀, -, -, -, he⟩
  · rw [hsite]
    exact keeps_of_eq rfl
  · intro other r hr
    rw [he.remote?]
    by_cases hk : d.remote = other
    · subst hk
      obtain rfl : r₀ = r := by simpa [hr₀] using hr
      exact ⟨_, if_pos rfl, fun e hmem => Remote.mem_observers_gain.2 (Or.inl hmem)⟩
    · exact ⟨r, by rw [if_neg hk, hr], fun _ => id⟩

end Site

end DeviceTwin
