import DeviceTwin.Proofs.Bench.Observing
import Mathlib.Data.List.Chain

/-!
# Observers hear of every change

An observer that has been added to a remote is told the state of that moment and then every change
until it is taken away again, each once and in order.  `Bench.due` counts the changes, from what
remotes look like between the actions; `Trace.heard` collects the calls of one observer from what
happened.  The main statement, `observers_hear_every_change`, compares the two for every observer
of every run, and says how the calls of one change follow each other, and that giving up what is
behind an observer ends its calls.

The one exception is a change in which an observer fails.  The observers behind it miss that
change, and it is the last one of the remote.
-/

namespace DeviceTwin

/-- What an observer of a remote was told in a trace. -/
def Trace.heard (t : Trace) (key : RemoteKey) (id : ObserverId) : List Connection :=
  ((t.callsOf key).filter (·.id = id)).map (·.state)

@[simp] theorem Trace.heard_append (t u : Trace) (key : RemoteKey) (id : ObserverId) :
    Trace.heard (t ++ u) key id = t.heard key id ++ u.heard key id := by
  simp [heard]

theorem Trace.heard_eq_nil {t : Trace} {key : RemoteKey} {id : ObserverId}
    (h : ∀ c ∈ t.callsOf key, c.id ≠ id) : t.heard key id = [] := by
  rw [heard, List.map_eq_nil_iff, List.filter_eq_nil_iff]
  intro c hc
  simpa using h c hc

namespace Bench

/-- Everything that actions with the given outcomes brought about. -/
def happenings (outcomes : List Outcome) : Trace := outcomes.flatMap (·.trace)

/-- Everything that happens while actions are carried out. -/
def history (b : Bench) (actions : List Action) : Trace := happenings (b.run actions).2

/-- The state that an action gives to a remote, if that had another one. -/
def change? (b : Bench) (a : Action) (key : RemoteKey) : Option Connection :=
  match b.site.remote? key, (b.step a).1.site.remote? key with
  | some r, some r' => if r.state = r'.state then none else some r'.state
  | _, _ => none

/-- What an observer of a remote has to be told of: one state for each change of the remote that
happens while the observer is there. -/
def due (key : RemoteKey) (id : ObserverId) (b : Bench) : List Action → List Connection
  | [] => []
  | a :: rest =>
    (if b.observes key id then (b.change? a key).toList else []) ++
      due key id (b.step a).1 rest

/-- An action changes a remote, but an observer that stands before the given one fails. -/
structure Missed (b : Bench) (a : Action) (key : RemoteKey) (id : ObserverId)
    (state : Connection) : Prop where
  change : b.change? a key = some state
  answer : (b.step a).2.answer = .panicked .observerFailed
  calls : ∀ c ∈ (b.step a).2.trace.callsOf key, c.id < id
  poisoned : ∃ r, (b.step a).1.site.remote? key = some r ∧ r.poisoned = true

variable {b : Bench} {key : RemoteKey} {id : ObserverId} {r r' : Remote}

theorem history_cons (b : Bench) (a : Action) (rest : List Action) :
    b.history (a :: rest) = (b.step a).2.trace ++ (b.step a).1.history rest := rfl

theorem history_append (b : Bench) (first second : List Action) :
    b.history (first ++ second) = b.history first ++ (b.run first).1.history second := by
  simp [history, happenings, run_append]

theorem change?_eq {a : Action} (hr : b.site.remote? key = some r)
    (hr' : (b.step a).1.site.remote? key = some r') :
    b.change? a key = if r.state = r'.state then none else some r'.state := by
  simp [change?, hr, hr']

/-! ## One action -/

/-- Only being connected or disconnected by a holder changes a remote. -/
theorem Sound.exists_setState_of_change? (h : b.Sound) {a : Action} {state : Connection}
    (hc : b.change? a key = some state) :
    ∃ r holder upset, b.site.remote? key = some r ∧ r.poisoned = false ∧
      a = .setState holder state upset ∧
      Site.StateChanged b.site key state upset r (b.site.setState key state upset) ∧
      b.step a = b.conclude (b.site.setState key state upset) fun () => .done := by
  cases hr : b.site.remote? key with
  | none => simp [change?, hr] at hc
  | some r =>
    obtain ⟨r', hr', -, -, hcause⟩ := (transition_step b a).remote h hr
    rw [change?_eq hr hr'] at hc
    by_cases hs : r.state = r'.state
    · simp [hs] at hc
    · obtain rfl : r'.state = state := by simpa [hs] using hc
      obtain ⟨holder, state, upset, rfl, hkey⟩ := hcause.resolve_left (Ne.symm hs)
      have hstep := step_setState hkey state upset
      have hsite : (b.site.setState key state upset).site.remote? key = some r' := by
        rwa [hstep] at hr'
      rcases Site.setState_cases b.site key state upset with ⟨hsame, -⟩ | ⟨r₀, hr₀, hp, -, he⟩
      · rw [hsame, hr] at hsite
        exact absurd (congrArg Remote.state (Option.some.inj hsite)) hs
      · obtain rfl : r = r₀ := by simpa [hr] using hr₀
        rw [he.remote?, if_pos rfl] at hsite
        obtain rfl := Option.some.inj hsite
        exact ⟨r, holder, upset, rfl, hp, rfl, he, hstep⟩

/-- Observers are called to give a sample to a new one, or because their remote changes.  A device
is a new observer when it is started. -/
theorem Transition.calls_cases {b' : Bench} {a : Action} {o : Outcome} (ht : Transition b a b' o)
    (h : b.Sound) :
    o.trace.calls = [] ∨
    (∃ key r observer, b.site.remote? key = some r ∧
      o.trace.calls = [⟨key, r.nextObserver, observer, r.state⟩] ∧
      ((∃ name holder failsOn, a = .subscribe name holder failsOn) ∨ ∃ name, a = .start name) ∧
      ∀ k, observer = .device k → ∃ d, b.site.device? k = some d ∧ d.started = false) ∨
    ∃ key r r' state upset, b.site.remote? key = some r ∧ b'.site.remote? key = some r' ∧
      r.state ≠ state ∧ r'.state = state ∧
      o.trace.calls = (told state upset r.observers).map fun e => ⟨key, e.1, e.2, state⟩ := by
  cases ht with
  | idle | channels | cloneRemote | dropRemote | newRemote => exact Or.inl rfl
  | @newDevice name =>
    left
    cases b.devices.get? name with
    | none => rfl
    | some old => exact Site.calls_dropDevice _ old
  | dropDevice => exact Or.inl (Site.calls_dropDevice _ _)
  | @start name k =>
    rcases h.site.start_cases k with ⟨-, hcalls, -⟩ | ⟨d, r, hd, hr, -, hs, -, he⟩
    · exact Or.inl hcalls
    · refine Or.inr (Or.inl ⟨d.remote, r, .device k, hr, he.calls, Or.inr ⟨name, rfl⟩, ?_⟩)
      intro k' hk'
      cases hk'
      exact ⟨d, hd, hs⟩
  | @setState holder state upset key =>
    rcases Site.setState_cases b.site key state upset with ⟨-, hcalls, -⟩ | ⟨r, hr, -, hs, he⟩
    · exact Or.inl hcalls
    · have hremote := he.remote? key
      rw [if_pos rfl] at hremote
      exact Or.inr (Or.inr ⟨key, r, _, state, upset, hr, hremote, hs, rfl, he.calls⟩)
  | refused name holder failsOn hkey result =>
    rcases Site.subscribe_recorder_eq_error result with
      ⟨-, hcalls, -⟩ | ⟨r, hr, -, -, -, -, hcalls⟩
    · exact Or.inl hcalls
    · exact Or.inr (Or.inl ⟨_, r, _, hr, hcalls, Or.inl ⟨name, holder, failsOn, rfl⟩, nofun⟩)
  | subscribed name holder failsOn hkey result =>
    obtain ⟨r, hr, -, -, -, hcalls⟩ := Site.subscribe_recorder_eq_ok result
    refine Or.inr (Or.inl ⟨_, r, .recorder name failsOn, hr, ?_,
      Or.inl ⟨name, holder, failsOn, rfl⟩, nofun⟩)
    rw [Trace.calls_append, hcalls, calls_dropSubscription?, List.append_nil]
  | @unsubscribe name s => exact Or.inl (calls_dropSubscription? b (some s))

theorem Sound.exists_remote?_of_mem_calls (h : b.Sound) {a : Action} {c : Call}
    (hc : c ∈ (b.step a).2.trace.calls) : ∃ r, b.site.remote? c.remote = some r := by
  rcases (transition_step b a).calls_cases h with
    hcalls | ⟨key, r, observer, hr, hcalls, -⟩ | ⟨key, r, r', state, upset, hr, -, -, -, hcalls⟩
  · simp [hcalls] at hc
  · rw [hcalls, List.mem_singleton] at hc
    exact ⟨r, hc ▸ hr⟩
  · rw [hcalls] at hc
    obtain ⟨e, -, rfl⟩ := List.mem_map.1 hc
    exact ⟨r, hr⟩

/-- An observer that has just been added has been told the state of its remote, and has a number
that was not given away before. -/
theorem Sound.added_step (h : b.Sound) {a : Action} (hbefore : b.observes key id = false)
    (hafter : (b.step a).1.observes key id = true) :
    ∃ r r', b.site.remote? key = some r ∧ (b.step a).1.site.remote? key = some r' ∧
      r.poisoned = false ∧ id = r.nextObserver ∧ id < r'.nextObserver ∧ r'.state = r.state ∧
      (b.step a).2.trace.heard key id = [r.state] := by
  obtain ⟨r', hr', observer, hmem⟩ := exists_remote?_of_observes hafter
  cases hr : b.site.remote? key with
  | none =>
    obtain ⟨name, rfl⟩ := (transition_step b a).remote_new hr hr'
    simp at hmem
  | some r =>
    obtain ⟨r₁, hr₁, hstep, -⟩ := (transition_step b a).remote h hr
    obtain rfl : r₁ = r' := by simpa [hr₁] using hr'
    have hnot : ∀ x, (id, x) ∉ r.observers := by
      intro x hx
      have : b.observes key id = true := (observes_iff hr).2 ⟨x, hx⟩
      simp [hbefore] at this
    have hid : id = r.nextObserver := (hstep.mem_observers hmem).resolve_left (hnot observer)
    generalize hcalls : (b.step a).2.trace.callsOf key = calls at hstep
    refine ⟨r, r₁, rfl, hr₁, ?_⟩
    cases hstep with
    | quiet | refused | changed => exact absurd hmem (hnot observer)
    | lost => exact absurd (Remote.mem_observers_lose.1 hmem).1 (hnot observer)
    | gained _ hp =>
      exact ⟨hp, hid, hid ▸ Nat.lt_succ_self _, rfl, by simp [Trace.heard, hcalls, hid]⟩
    | exchanged _ hp =>
      exact ⟨hp, hid, hid ▸ Nat.lt_succ_self _, rfl, by simp [Trace.heard, hcalls, hid]⟩

/-- An observer hears of a change exactly if there is one, unless it misses it. -/
theorem Sound.heard_step (h : b.Sound) (hr : b.site.remote? key = some r)
    (hid : id < r.nextObserver) (a : Action) :
    (b.step a).2.trace.heard key id =
        (if b.observes key id then (b.change? a key).toList else []) ∨
      ∃ missed, (if b.observes key id then (b.change? a key).toList else []) = [missed] ∧
        (b.step a).2.trace.heard key id = [] ∧ Missed b a key id missed := by
  obtain ⟨r', hr', hstep, hcause, -⟩ := (transition_step b a).remote h hr
  have hchange := change?_eq hr hr'
  have hsample : ∀ observer state,
      (b.step a).2.trace.callsOf key = [⟨key, r.nextObserver, observer, state⟩] →
        (b.step a).2.trace.heard key id = [] := by
    intro observer state hcalls
    apply Trace.heard_eq_nil
    intro c hc
    rw [hcalls, List.mem_singleton] at hc
    rw [hc]
    exact Nat.ne_of_gt hid
  generalize hcalls : (b.step a).2.trace.callsOf key = calls at hstep
  cases hstep with
  | quiet | lost => exact Or.inl (by simp [hchange, Trace.heard, hcalls, Remote.lose])
  | gained | exchanged | refused =>
    exact Or.inl (by simp [hchange, hsample _ _ hcalls, Remote.gain, Remote.lose])
  | changed state upset hp hs =>
    have hchange : b.change? a key = some state := by rw [hchange, if_neg hs]
    have hordered := (h.site.remote hr).ordered
    have hheard : (b.step a).2.trace.heard key id =
        ((told state upset r.observers).filter (·.1 = id)).map fun _ => state := by
      simp only [Trace.heard, hcalls, List.filter_map, List.map_map]
      rfl
    by_cases hobs : b.observes key id = true
    · obtain ⟨observer, hmem⟩ := (observes_iff hr).1 hobs
      obtain ⟨rest, hrest⟩ : told state upset r.observers <+: r.observers := told_isPrefix
      by_cases htold : (id, observer) ∈ told state upset r.observers
      · left
        have hsorted : (told state upset r.observers).Pairwise (·.1 < ·.1) :=
          hordered.sublist told_isPrefix.sublist
        rw [hheard, filter_eq_singleton hsorted htold]
        simp [hobs, hchange]
      · -- The observer is behind the last one called, so its number is greater than all of those.
        right
        have hbefore : ∀ e ∈ told state upset r.observers, e.1 < id := by
          intro e he
          have hmem : (id, observer) ∈ rest := by
            rw [← hrest, List.mem_append] at hmem
            exact hmem.resolve_left htold
          rw [← hrest] at hordered
          exact (List.pairwise_append.1 hordered).2.2 e he _ hmem
        have hbreaks : r.observers.any (breaksAt state upset) = true := by
          by_contra hnone
          have hnone : ∀ e ∈ r.observers, breaksAt state upset e = false := by
            simpa using hnone
          rw [told_eq_self hnone] at htold
          exact htold hmem
        refine ⟨state, by simp [hobs, hchange], ?_, hchange, ?_, ?_, _, hr', hbreaks⟩
        · rw [hheard, List.map_eq_nil_iff, List.filter_eq_nil_iff]
          intro e he
          simpa using Nat.ne_of_lt (hbefore e he)
        · exact hcause.resolve_left (by simp [hp, hbreaks])
        · rw [hcalls]
          intro c hc
          obtain ⟨e, he, rfl⟩ := List.mem_map.1 hc
          exact hbefore e he
    · left
      have hnot : ∀ e ∈ told state upset r.observers, e.1 ≠ id := by
        intro e he heq
        exact hobs ((observes_iff hr).2 ⟨e.2, heq ▸ mem_of_mem_told he⟩)
      rw [hheard, if_neg hobs, List.map_eq_nil_iff, List.filter_eq_nil_iff]
      intro e he
      simpa using hnot e he

/-! ## Runs -/

/-- Nothing is heard from a poisoned remote, and nothing happens to it. -/
theorem Sound.run_of_poisoned (h : b.Sound) (hr : b.site.remote? key = some r)
    (hp : r.poisoned = true) (actions : List Action) :
    (∃ r', (b.run actions).1.site.remote? key = some r' ∧ r'.poisoned = true ∧
        r'.state = r.state) ∧
      (b.history actions).callsOf key = [] ∧ ∀ id, b.due key id actions = [] := by
  induction actions generalizing b r with
  | nil => exact ⟨⟨r, hr, hp, rfl⟩, rfl, fun _ => rfl⟩
  | cons a rest ih =>
    obtain ⟨r', hr', hstep, -⟩ := (transition_step b a).remote h hr
    obtain ⟨hp', hstate, hcalls⟩ := hstep.of_poisoned hp
    obtain ⟨⟨r'', hr'', hp'', hstate''⟩, hrest, hdue⟩ := ih (h.step a) hr' hp'
    refine ⟨⟨r'', hr'', hp'', hstate''.trans hstate⟩, ?_, ?_⟩
    · rw [history_cons, Trace.callsOf_append, hcalls, hrest, List.append_nil]
    · intro id
      simp [due, hdue id, change?_eq hr hr', hstate]

/-- In a run, calls are of observers whose numbers have been given away, or of the one that failed
on its sample and poisoned the remote. -/
theorem lt_nextObserver_of_mem_calls (actions : List Action) {c : Call}
    (hc : c ∈ (happenings (run {} actions).2).calls) :
    ∃ r, (run {} actions).1.site.remote? c.remote = some r ∧
      (c.id < r.nextObserver ∨ r.poisoned = true) := by
  refine run_induction (p := fun b outcomes => ∀ c ∈ (happenings outcomes).calls,
    ∃ r, b.site.remote? c.remote = some r ∧ (c.id < r.nextObserver ∨ r.poisoned = true))
    (by simp [happenings]) ?_ actions c hc
  intro b outcomes a hb ih c hc
  rw [happenings, List.flatMap_append, Trace.calls_append, List.mem_append] at hc
  rcases hc with hold | hnew
  · obtain ⟨r, hr, hid⟩ := ih c hold
    obtain ⟨r', hr', hstep, -⟩ := (transition_step b a).remote hb hr
    rcases hid with hlt | hp
    · exact ⟨r', hr', Or.inl (Nat.lt_of_lt_of_le hlt hstep.nextObserver_le)⟩
    · exact ⟨r', hr', Or.inr (hstep.of_poisoned hp).1⟩
  · have hnew : c ∈ (b.step a).2.trace.calls := by simpa using hnew
    obtain ⟨r, hr⟩ := hb.exists_remote?_of_mem_calls hnew
    obtain ⟨r', hr', hstep, -⟩ := (transition_step b a).remote hb hr
    have hmem : c ∈ (b.step a).2.trace.callsOf c.remote := List.mem_filter.2 ⟨hnew, by simp⟩
    exact ⟨r', hr', hstep.lt_nextObserver_of_mem_calls (hb.site.remote hr) hmem⟩

/-- From the moment it is there, an observer hears of all that is due, or it misses the last. -/
theorem Sound.heard_run (h : b.Sound) (hr : b.site.remote? key = some r)
    (hid : id < r.nextObserver) (actions : List Action) :
    (b.history actions).heard key id = b.due key id actions ∨
      ∃ missed first a rest, actions = first ++ a :: rest ∧
        b.due key id actions = (b.history actions).heard key id ++ [missed] ∧
        Missed (b.run first).1 a key id missed := by
  induction actions generalizing b r with
  | nil => exact Or.inl rfl
  | cons a rest ih =>
    obtain ⟨r', hr', hstep, -⟩ := (transition_step b a).remote h hr
    rw [history_cons, Trace.heard_append, due]
    rcases h.heard_step hr hid a with heq | ⟨missed, hdue, hnil, hmissed⟩
    · rw [heq]
      rcases ih (h.step a) hr' (Nat.lt_of_lt_of_le hid hstep.nextObserver_le) with
        hrest | ⟨missed, first, a', rest', rfl, hdue, hmissed⟩
      · exact Or.inl (by rw [hrest])
      · exact Or.inr ⟨missed, a :: first, a', rest', rfl,
          by rw [hdue, List.append_assoc], hmissed⟩
    · obtain ⟨r₁, hr₁, hp₁⟩ := hmissed.poisoned
      obtain ⟨-, hcalls, hnone⟩ := (h.step a).run_of_poisoned hr₁ hp₁ rest
      refine Or.inr ⟨missed, [], a, rest, rfl, ?_, hmissed⟩
      have hheard : ((b.step a).1.history rest).heard key id = [] := by simp [Trace.heard, hcalls]
      rw [hdue, hnone, hnil, hheard]
      rfl

/-- What is due to an observer that has left, or is yet to come under another number. -/
theorem Sound.due_of_not_observes (h : b.Sound) (hr : b.site.remote? key = some r)
    (hid : id < r.nextObserver) (hobs : b.observes key id = false) (actions : List Action) :
    b.due key id actions = [] := by
  induction actions generalizing b r with
  | nil => rfl
  | cons a rest ih =>
    obtain ⟨r', hr', hstep, -⟩ := (transition_step b a).remote h hr
    have hobs' : (b.step a).1.observes key id = false := by
      by_contra hnow
      rw [h.observes_of_observes_step hr hid (by simpa using hnow)] at hobs
      simp at hobs
    simp [due, hobs, ih (h.step a) hr' (Nat.lt_of_lt_of_le hid hstep.nextObserver_le) hobs']

/-- An observer that has left is never called again. -/
theorem Sound.heard_of_left (h : b.Sound) (hr : b.site.remote? key = some r)
    (hid : id < r.nextObserver) (hobs : b.observes key id = false) (actions : List Action) :
    (b.history actions).heard key id = [] := by
  have hdue := h.due_of_not_observes hr hid hobs actions
  rcases h.heard_run hr hid actions with hheard | ⟨missed, -, -, -, -, hmissing, -⟩
  · rw [hheard, hdue]
  · rw [hdue] at hmissing
    simp at hmissing

/-- States that are due alternate, beginning with another one than the remote has. -/
theorem Sound.isChain_due (h : b.Sound) (hr : b.site.remote? key = some r)
    (hid : id < r.nextObserver) (actions : List Action) :
    (r.state :: b.due key id actions).IsChain (· ≠ ·) := by
  induction actions generalizing b r with
  | nil => exact .singleton _
  | cons a rest ih =>
    obtain ⟨r', hr', hstep, -⟩ := (transition_step b a).remote h hr
    have hid' := Nat.lt_of_lt_of_le hid hstep.nextObserver_le
    have hrest := ih (h.step a) hr' hid'
    by_cases hobs : b.observes key id = true
    · rw [due, if_pos hobs, change?_eq hr hr']
      by_cases hs : r.state = r'.state
      · simpa [hs] using hrest
      · simpa [hs] using hrest
    · have hobs : b.observes key id = false := by simpa using hobs
      rw [h.due_of_not_observes hr hid hobs]
      exact .singleton _

/-- While an observer is there, the last state that is due is the one of the remote. -/
theorem Sound.getLast?_due (h : b.Sound) (hr : b.site.remote? key = some r)
    (hid : id < r.nextObserver) (actions : List Action)
    (hobs : (b.run actions).1.observes key id = true) :
    ∃ r', (b.run actions).1.site.remote? key = some r' ∧
      (r.state :: b.due key id actions).getLast? = some r'.state := by
  induction actions generalizing b r with
  | nil => exact ⟨r, hr, rfl⟩
  | cons a rest ih =>
    obtain ⟨r₁, hr₁, hstep, -⟩ := (transition_step b a).remote h hr
    have hid₁ := Nat.lt_of_lt_of_le hid hstep.nextObserver_le
    have hnow := h.observes_of_observes_run hr hid hobs
    obtain ⟨r', hr', hlast⟩ := ih (h.step a) hr₁ hid₁ hobs
    refine ⟨r', hr', ?_⟩
    rw [due, if_pos hnow, change?_eq hr hr₁]
    by_cases hs : r.state = r₁.state
    · simpa [hs] using hlast
    · simpa [hs] using hlast

/-! ## The main statement -/

/-- What a change of a remote does to its observers: a first part of them is called, each once and
in the order of their numbers.  These are all of them, unless the last one called has failed; then
nothing happens to the remote any more. -/
structure Dispatched (b : Bench) (a : Action) (key : RemoteKey) (r : Remote) (state : Connection)
    (called missed : List (ObserverId × Observer)) : Prop where
  ordered : r.observers.Pairwise (·.1 < ·.1)
  observers : r.observers = called ++ missed
  calls : (b.step a).2.trace.calls = called.map fun e => ⟨key, e.1, e.2, state⟩
  ending : (b.step a).2.answer = .done ∧ missed = [] ∨
    (b.step a).2.answer = .panicked .observerFailed ∧
      (∃ id label failsOn, called.getLast? = some (id, .recorder label failsOn)) ∧
      ∀ later, ((b.step a).1.history later).callsOf key = [] ∧
        ∃ r', ((b.step a).1.run later).1.site.remote? key = some r' ∧ r'.poisoned = true ∧
          r'.state = state

theorem Sound.dispatched (h : b.Sound) {a : Action} {state : Connection}
    (hc : b.change? a key = some state) :
    ∃ r called missed, b.site.remote? key = some r ∧ Dispatched b a key r state called missed := by
  obtain ⟨r, holder, upset, hr, -, rfl, he, hstep⟩ := h.exists_setState_of_change? hc
  have hordered := (h.site.remote hr).ordered
  have hcalls : (b.step (.setState holder state upset)).2.trace.calls =
      (told state upset r.observers).map fun e => ⟨key, e.1, e.2, state⟩ := by
    rw [hstep]
    exact he.calls
  by_cases hany : r.observers.any (breaksAt state upset) = true
  · obtain ⟨called, e, missed, hsplit, hcalled, hfails⟩ := exists_first_breaking hany
    have htold : told state upset r.observers = called ++ [e] := by
      rw [hsplit, told_eq_append hcalled hfails]
    refine ⟨r, called ++ [e], missed, hr, hordered, ?_, by rw [hcalls, htold], Or.inr ⟨?_, ?_, ?_⟩⟩
    · rw [hsplit, List.append_assoc, List.singleton_append]
    · rw [hstep, conclude, he.result, if_pos hany]
    · -- A device does not fail.
      obtain ⟨id, observer⟩ := e
      cases observer with
      | device k => simp [breaksAt_device] at hfails
      | recorder label failsOn => exact ⟨id, label, failsOn, by simp⟩
    · intro later
      have hpoisoned : (b.step (.setState holder state upset)).1.site.remote? key =
          some { r with state, poisoned := true } := by
        rw [hstep]
        exact (he.remote? key).trans (by rw [if_pos rfl, hany])
      obtain ⟨hr', hnone, -⟩ := (h.step (.setState holder state upset)).run_of_poisoned
        hpoisoned rfl later
      exact ⟨hnone, hr'⟩
  · have hnone : ∀ e ∈ r.observers, breaksAt state upset e = false := by simpa using hany
    refine ⟨r, r.observers, [], hr, hordered, by simp, ?_, Or.inl ⟨?_, rfl⟩⟩
    · rw [hcalls, told_eq_self hnone]
    · rw [hstep, conclude, he.result, if_neg hany]

/-- Whoever has subscribed has been added. -/
theorem Sound.observes_of_subscribed (h : b.Sound) {name : Text} {holder : Holder}
    {failsOn : Option Connection}
    (hanswer : (b.step (.subscribe name holder failsOn)).2.answer = .subscribed id) :
    ∃ key, b.remoteKey? holder = some key ∧ b.observes key id = false ∧
      (b.step (.subscribe name holder failsOn)).1.observes key id = true := by
  obtain ⟨key, hkey, hresult⟩ := exists_of_subscribed hanswer
  refine ⟨key, hkey, ?_⟩
  obtain ⟨b₁, hb₁⟩ : ∃ b₁ : Bench, b₁ = { b with
      site := (b.site.subscribe key (.recorder name failsOn)).site
      subscriptions := b.subscriptions.put name { remote := key, observer := id } } :=
    ⟨_, rfl⟩
  rw [step_subscribe_of_ok hkey hresult hb₁]
  obtain ⟨r, hr, -, rfl, hsite, -⟩ := Site.subscribe_recorder_eq_ok hresult
  have hr₁ : b₁.site.remote? key = some (r.gain (.recorder name failsOn)) := by
    simp [hb₁, hsite, hr]
  have hgained : (r.nextObserver, Observer.recorder name failsOn) ∈
      (r.gain (.recorder name failsOn)).observers := Remote.mem_observers_gain.2 (Or.inr rfl)
  constructor
  · by_contra hobs
    obtain ⟨observer, hmem⟩ := (observes_iff hr).1 (by simpa using hobs)
    exact Nat.lt_irrefl _ ((h.site.remote hr).numbered _ hmem)
  · rcases remote?_dropSubscription? b₁ (b.subscriptions.get? name) hr₁ with
      hsame | ⟨old, hold, rfl, hlost⟩
    · exact (observes_iff hsame).2 ⟨_, hgained⟩
    · -- The subscription that had the name has an older number.
      obtain ⟨r₀, hr₀, hlt, -⟩ := h.subscription hold
      obtain rfl : r = r₀ := by simpa [hr] using hr₀
      refine (observes_iff hlost).2 ⟨_, Remote.mem_observers_lose.2 ⟨hgained, ?_⟩⟩
      exact Nat.ne_of_gt hlt

/-- What an observer has been told that was added to a remote by an action: a sample, and all that
was due to it afterwards.  Only the change in which an observer failed can be missing. -/
structure Informed (before : List Action) (a : Action) (after : List Action) (key : RemoteKey)
    (id : ObserverId) (sample : Connection) : Prop where
  complete : (history {} (before ++ a :: after)).heard key id =
      sample :: due key id ((run {} before).1.step a).1 after ∨
    ∃ missed first change rest, after = first ++ change :: rest ∧
      sample :: due key id ((run {} before).1.step a).1 after =
        (history {} (before ++ a :: after)).heard key id ++ [missed] ∧
      Missed (((run {} before).1.step a).1.run first).1 change key id missed
  alternating : ((history {} (before ++ a :: after)).heard key id).IsChain (· ≠ ·)
  current : ∀ r, (run {} (before ++ a :: after)).1.site.remote? key = some r →
    r.poisoned = false → (run {} (before ++ a :: after)).1.observes key id = true →
      ((history {} (before ++ a :: after)).heard key id).getLast? = some r.state

theorem run_append_cons (b : Bench) (before : List Action) (a : Action) (after : List Action) :
    (b.run (before ++ a :: after)).1 = (((b.run before).1.step a).1.run after).1 := by
  rw [run_append]
  rfl

/-- Nothing has been heard under a number before it is given away. -/
theorem heard_of_not_observes (before : List Action)
    (hr : (run {} before).1.site.remote? key = some r) (hp : r.poisoned = false) :
    (history {} before).heard key r.nextObserver = [] := by
  apply Trace.heard_eq_nil
  intro c hc
  obtain ⟨hmem, hkey⟩ := List.mem_filter.1 hc
  obtain rfl : c.remote = key := by simpa using hkey
  obtain ⟨r', hr', hid⟩ := lt_nextObserver_of_mem_calls before hmem
  obtain rfl : r = r' := by simpa [hr] using hr'
  exact Nat.ne_of_lt (hid.resolve_right (by simp [hp]))

theorem exists_informed (before after : List Action) (a : Action)
    (hbefore : (run {} before).1.observes key id = false)
    (hafter : ((run {} before).1.step a).1.observes key id = true) :
    ∃ r, (run {} before).1.site.remote? key = some r ∧
      Informed before a after key id r.state := by
  have h : (run {} before).1.Sound := sound_empty.run before
  obtain ⟨r, r', hr, hr', hp, rfl, hid, hstate, hsample⟩ := h.added_step hbefore hafter
  have hheard : (history {} (before ++ a :: after)).heard key r.nextObserver =
      r.state :: (((run {} before).1.step a).1.history after).heard key r.nextObserver := by
    rw [history_append, history_cons, Trace.heard_append, Trace.heard_append,
      heard_of_not_observes before hr hp, hsample]
    rfl
  have hchain := (h.step a).isChain_due hr' hid after
  rw [hstate] at hchain
  refine ⟨r, hr, ?_⟩
  rcases (h.step a).heard_run hr' hid after with
    hdue | ⟨missed, first, change, rest, rfl, hdue, hmissed⟩
  · rw [hdue] at hheard
    refine ⟨Or.inl hheard, hheard ▸ hchain, ?_⟩
    intro r₁ hr₁ _ hobs
    rw [run_append_cons] at hr₁ hobs
    obtain ⟨r₂, hr₂, hlast⟩ := (h.step a).getLast?_due hr' hid after hobs
    obtain rfl : r₁ = r₂ := by simpa [hr₁] using hr₂
    rw [hheard, ← hstate, hlast]
  · have hall : r.state :: due key r.nextObserver ((run {} before).1.step a).1
          (first ++ change :: rest) =
        (history {} (before ++ a :: (first ++ change :: rest))).heard key r.nextObserver ++
          [missed] := by
      rw [hdue, hheard]
      rfl
    rw [hall] at hchain
    refine ⟨Or.inr ⟨missed, first, change, rest, rfl, hall, hmissed⟩, hchain.left_of_append, ?_⟩
    intro r₁ hr₁ hp₁ _
    -- The remote has been poisoned since the change that was missed.
    obtain ⟨r₂, hr₂, hp₂⟩ := hmissed.poisoned
    have hsound : (((run {} before).1.step a).1.run first).1.Sound := (h.step a).run first
    obtain ⟨⟨r₃, hr₃, hp₃, -⟩, -⟩ := (hsound.step change).run_of_poisoned hr₂ hp₂ rest
    rw [run_append_cons, run_append_cons] at hr₁
    obtain rfl : r₁ = r₃ := by simpa [hr₁] using hr₃
    simp [hp₁] at hp₃

/-- Who is called by an action, and who comes and goes. -/
structure Notifies (b : Bench) (a : Action) : Prop where
  /-- A change is dispatched to the observers. -/
  change : ∀ {key state}, b.change? a key = some state → ∃ r called missed,
    b.site.remote? key = some r ∧ Dispatched b a key r state called missed
  /-- Without a change nobody is called but a new observer. -/
  sample : (∀ key, b.change? a key = none) → (b.step a).2.trace.calls = [] ∨
    ∃ key r observer, b.site.remote? key = some r ∧
      (b.step a).2.trace.calls = [⟨key, r.nextObserver, observer, r.state⟩] ∧
      ((∃ name holder failsOn, a = .subscribe name holder failsOn) ∨ ∃ name, a = .start name)
  /-- Whoever subscribes is added. -/
  subscribed : ∀ {name holder failsOn id}, a = .subscribe name holder failsOn →
    (b.step a).2.answer = .subscribed id → ∃ key, b.remoteKey? holder = some key ∧
      b.observes key id = false ∧ (b.step a).1.observes key id = true
  /-- Nobody leaves who is not dropped. -/
  dropped : ∀ {key id}, b.observes key id = true → (b.step a).1.observes key id = false →
    Drops b key id a (b.step a).2.answer
  /-- Whoever is dropped leaves, as long as the remote exists, and is never called again. -/
  released : ∀ {key id}, Drops b key id a (b.step a).2.answer → b.isHeld key = true →
    (b.step a).1.observes key id = false ∧
      ∀ later, ((b.step a).1.history later).heard key id = []

theorem Sound.notifies (h : b.Sound) (a : Action) : Notifies b a where
  change := h.dispatched
  sample hnone := by
    rcases (transition_step b a).calls_cases h with
      hcalls | ⟨key, r, observer, hr, hcalls, hcause, -⟩ |
        ⟨key, r, r', state, upset, hr, hr', hs, hs', -⟩
    · exact Or.inl hcalls
    · exact Or.inr ⟨key, r, observer, hr, hcalls, hcause⟩
    · have hsome : b.change? a key = some state := by
        rw [change?_eq hr hr', hs', if_neg hs]
      simp [hnone key] at hsome
  subscribed ha hanswer := by
    subst ha
    exact h.observes_of_subscribed hanswer
  dropped {key id} hbefore hafter := by
    obtain ⟨r, hr, observer, hmem⟩ := exists_remote?_of_observes hbefore
    obtain ⟨r', hr', -⟩ := (transition_step b a).remote h hr
    apply (transition_step b a).drops h hr hr' hmem
    intro hmem'
    have hobs : (b.step a).1.observes key id = true := (observes_iff hr').2 ⟨observer, hmem'⟩
    simp [hafter] at hobs
  released {key id} hdrops hheld := by
    obtain ⟨⟨r, hr, hlt⟩, r', hr'⟩ := hdrops.lost h hheld
    obtain ⟨r₁, hr₁, hstep, -⟩ := (transition_step b a).remote h hr
    have hlt₁ : id < r₁.nextObserver := Nat.lt_of_lt_of_le hlt hstep.nextObserver_le
    have hleft := observes_eq_false_of_lose hr'
    exact ⟨hleft, (h.step a).heard_of_left hr₁ hlt₁ hleft⟩

/-- Observers hear of every change.  In every run, each change of a remote is told to all who
observe it at that moment, in their order and in one go; and each observer that is ever added hears
the state of that moment, and from then on every change, each once, until it is dropped.  From then
on it hears nothing. -/
theorem observers_hear_every_change (before after : List Action) (a : Action) :
    Notifies (run {} before).1 a ∧
    ∀ key id, (run {} before).1.observes key id = false →
      ((run {} before).1.step a).1.observes key id = true →
        ∃ r, (run {} before).1.site.remote? key = some r ∧
          Informed before a after key id r.state :=
  ⟨(sound_empty.run before).notifies a, fun _ _ => exists_informed before after a⟩

/-- A device and a recorder that observe a remote, and a second device. -/
def attended : List Action :=
  [.newRemote ['r'] ['p'], .newDevice ['a'] (.handle ['r']) [], .start ['a'],
    .subscribe ['s'] (.handle ['r']) none, .newDevice ['b'] (.handle ['r']) []]

/-- The second device is started, hears of one change and misses the next one, in which the
recorder fails.  If the recorder is dropped before, it is not called any more. -/
theorem observers_hear_every_change_attended :
    (∃ r, (run {} attended).1.site.remote? 0 = some r ∧
      Informed attended (.start ['b'])
        [.setState (.handle ['r']) .connected, .setState (.handle ['r']) .connected,
          .setState (.handle ['r']) .disconnected [1]] 0 2 r.state ∧
      Trace.heard (history {} (attended ++ .start ['b'] ::
        [.setState (.handle ['r']) .connected, .setState (.handle ['r']) .connected,
          .setState (.handle ['r']) .disconnected [1]])) 0 2 = [.disconnected, .connected]) ∧
    (run {} attended).1.observes 0 1 = true ∧
    ((run {} attended).1.step (.unsubscribe ['s'])).1.observes 0 1 = false ∧
    ∀ later, (((run {} attended).1.step (.unsubscribe ['s'])).1.history later).heard 0 1 = [] := by
  constructor
  · obtain ⟨r, hr, hinformed⟩ := (observers_hear_every_change attended
      [.setState (.handle ['r']) .connected, .setState (.handle ['r']) .connected,
        .setState (.handle ['r']) .disconnected [1]] (.start ['b'])).2 0 2 (by decide) (by decide)
    exact ⟨r, hr, hinformed, by decide⟩
  · obtain ⟨hnotifies, -⟩ := observers_hear_every_change attended [] (.unsubscribe ['s'])
    have hname : (run {} attended).1.subscriptions.get? ['s'] = some ⟨0, 1⟩ := by decide
    exact ⟨by decide, hnotifies.released (.unsubscribe ['s'] hname _) (by decide)⟩

end Bench

end DeviceTwin
