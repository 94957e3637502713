import DeviceTwin.Console.Reply
import DeviceTwin.Proofs.Site.Soundness
import Mathlib.Data.List.Induction

/-!
# What the commands so far amount to

Remotes, observers, devices and their models do for the console what three variables would do: the
last change of the connection, whether there was a start, and how often a started device came to a
connected remote.  `standing` reads them off the commands that were given so far, and
`Standing.after` says what the next command makes of them.

A new device on a new remote stands as the commands say, whatever else there is on its site, since
it is the only one that observes its remote; `Shows` is the invariant, and `execute_of_shows` the
step that every command takes.  `replies_follow_standing` is the main statement, about any commands.
-/

namespace DeviceTwin.Console

/-! ## Three variables -/

/-- The connection that a command asks for. -/
def Command.state? : Command → Option Connection
  | connect => some .connected
  | disconnect => some .disconnected
  | _ => none

/-- What commands amount to. -/
structure Standing where
  /-- The connection that was asked for last. -/
  state : Connection
  /-- Whether there was a start. -/
  started : Bool
  /-- How often a start and a connection came together. -/
  loads : Nat
  deriving DecidableEq, Repr

/-- A start and a connection are together after some commands. -/
def isLoaded (history : List Command) : Bool :=
  history.contains .start && (history.filterMap Command.state?).getLast? = some .connected

/-- They came together with the command in a certain place. -/
def isLoad (history : List Command) (i : Nat) : Bool :=
  !isLoaded (history.take i) && isLoaded (history.take (i + 1))

/-- What the commands so far amount to. -/
def standing (history : List Command) : Standing where
  state := (history.filterMap Command.state?).getLast?.getD .disconnected
  started := history.contains .start
  loads := (List.range history.length).countP (isLoad history)

namespace Standing

/-- Whether a start and a connection are together. -/
def loaded (x : Standing) : Bool := x.started && x.state.isConnected

/-- The status of the device. -/
def status (x : Standing) : Status := if x.started then .ofConnection x.state else .stopped

/-- The line that shows all three variables. -/
def line (x : Standing) (remote : Text) : Text :=
  "status: ".toList ++
    (if x.started then
      if x.state = .connected then "Connected".toList else "Disconnected".toList
    else "Stopped".toList) ++
    ", model: ".toList ++ (if x.loaded then "loaded".toList else "empty".toList) ++
    " (".toList ++ Numeral.render x.loads ++ " loads), remote ".toList ++ remote ++ ": ".toList ++
    (if x.state = .connected then "connected".toList else "disconnected".toList)

/-- The standing with another connection, or after a start. -/
def turn (x : Standing) (state : Connection) (started : Bool) : Standing where
  state := state
  started := started
  loads := x.loads + if !x.loaded && (started && state.isConnected) then 1 else 0

/-- The standing after one command more. -/
def after (x : Standing) : Command → Standing
  | .connect => x.turn .connected x.started
  | .disconnect => x.turn .disconnected x.started
  | .start => x.turn x.state true
  | .status | .lookup _ | .parse _ | .help | .quit => x

/-- What a command is answered with. -/
def reply (x : Standing) (remote : Text) : Command → Reply
  | .start =>
    .text (if x.started then errorText (StartError.alreadyStarted remote).message
      else (x.after .start).line remote)
  | .lookup name => .text (lookupText name)
  | .parse id => .text (parseText id)
  | .help => .text helpText
  | .quit => .quit
  | command => .text ((x.after command).line remote)

theorem turn_self (x : Standing) : x.turn x.state x.started = x := by
  have hsame : (!x.loaded && (x.started && x.state.isConnected)) = false :=
    Bool.not_and_self x.loaded
  rw [turn, hsame]
  rfl

theorem after_start_of_started {x : Standing} (hs : x.started = true) : x.after .start = x := by
  rw [after, ← hs, x.turn_self]

theorem line_eq_statusText (x : Standing) (remote : Text) :
    x.line remote = statusText x.status ⟨x.loaded, x.loads⟩ remote x.state := by
  obtain ⟨state, started, loads⟩ := x
  cases state <;> cases started <;> rfl

end Standing

theorem loaded_standing (history : List Command) :
    (standing history).loaded = isLoaded history := by
  rw [Standing.loaded, isLoaded, standing]
  cases (history.filterMap Command.state?).getLast? with
  | none => simp [Connection.isConnected]
  | some state => simp [Connection.isConnected]

theorem state_standing_append (history : List Command) (command : Command) :
    (standing (history ++ [command])).state = command.state?.getD (standing history).state := by
  cases h : command.state? <;> simp [standing, h]

theorem started_standing_append (history : List Command) (command : Command) :
    (standing (history ++ [command])).started =
      ((standing history).started || command = .start) := by
  simp [standing, @eq_comm _ Command.start]

theorem isLoad_append_of_lt {history : List Command} {i : Nat} (hi : i < history.length)
    (command : Command) : isLoad (history ++ [command]) i = isLoad history i := by
  rw [isLoad, isLoad, List.take_append_of_le_length (Nat.le_of_lt hi),
    List.take_append_of_le_length (Nat.succ_le_of_lt hi)]

theorem isLoad_append_length (history : List Command) (command : Command) :
    isLoad (history ++ [command]) history.length =
      (!(standing history).loaded && (standing (history ++ [command])).loaded) := by
  have hall : (history ++ [command]).take (history.length + 1) = history ++ [command] :=
    List.take_of_length_le (by simp)
  rw [isLoad, List.take_left, hall, loaded_standing, loaded_standing]

theorem loads_standing_append (history : List Command) (command : Command) :
    (standing (history ++ [command])).loads = (standing history).loads +
      if !(standing history).loaded && (standing (history ++ [command])).loaded then 1 else 0 := by
  have hbefore : (List.range history.length).countP (isLoad (history ++ [command])) =
      (standing history).loads := by
    apply List.countP_congr
    intro i hi
    rw [isLoad_append_of_lt (List.mem_range.1 hi)]
  change (List.range (history ++ [command]).length).countP (isLoad (history ++ [command])) = _
  rw [List.length_append, List.length_singleton, List.range_succ, List.countP_append, hbefore,
    List.countP_singleton, isLoad_append_length]

/-- Every command takes the standing one step further. -/
theorem standing_append (history : List Command) (command : Command) :
    standing (history ++ [command]) = (standing history).after command := by
  have hturn : standing (history ++ [command]) = (standing history).turn
      (command.state?.getD (standing history).state)
      ((standing history).started || command = .start) := by
    rw [Standing.turn, ← state_standing_append, ← started_standing_append]
    exact congrArg (Standing.mk _ _) (loads_standing_append history command)
  rw [hturn]
  cases command <;> simp [Command.state?, Standing.after, Standing.turn_self]

theorem loads_standing_le (history : List Command) :
    (standing history).loads ≤ history.length := by
  calc (standing history).loads ≤ (List.range history.length).length := List.countP_le_length
    _ = history.length := List.length_range

/-! ## What the site shows -/

/-- A device and its remote are as a standing says, and only the device observes the remote. -/
structure Shown (x : Standing) (k : DeviceKey) (name : Text) (d : Device) (r : Remote) : Prop where
  name : r.name = name
  state : r.state = x.state
  unpoisoned : r.poisoned = false
  observers : ∀ e ∈ r.observers, e.2 = .device k ∧ d.subscription = some e.1
  attached : d.Attached k r
  started : d.started = x.started
  loads : d.model.loads = x.loads

namespace Shown

variable {x : Standing} {k : DeviceKey} {name : Text} {d d' : Device} {r : Remote}

theorem status (h : Shown x k name d r) : d.status = x.status := by
  rw [Standing.status, ← h.started, ← h.state]
  cases h.attached with
  | idle _ hstarted hstatus _ => rw [hstarted, hstatus]; rfl
  | following _ _ _ hstarted _ hstatus _ hcurrent =>
    rw [hstarted, hstatus, hcurrent h.unpoisoned]
    rfl

theorem model (h : Shown x k name d r) : d.model = ⟨x.loaded, x.loads⟩ := by
  have hloaded : d.model.loaded = x.loaded := by
    rw [Standing.loaded, ← h.started, ← h.state]
    cases h.attached with
    | idle _ hstarted _ hmodel => rw [hstarted, hmodel]; rfl
    | following _ _ _ hstarted _ _ hmodel hcurrent =>
      rw [hstarted, hmodel, hcurrent h.unpoisoned, Bool.true_and]
  rw [← hloaded, ← h.loads]

theorem breaksAt_eq_false (h : Shown x k name d r) (state : Connection) :
    r.observers.any (breaksAt state []) = false :=
  any_breaksAt_of_devices fun e he => ⟨k, (h.observers e he).1⟩

theorem observers_of_not_started (h : Shown x k name d r) (hs : d.started = false) :
    d.subscription = none ∧ r.observers = [] := by
  cases h.attached with
  | following _ _ _ hstarted => simp [hs] at hstarted
  | idle hsub =>
    refine ⟨hsub, List.eq_nil_iff_forall_not_mem.2 fun e he => ?_⟩
    obtain ⟨-, hnumber⟩ := h.observers e he
    simp [hsub] at hnumber

/-- A device that has not been started takes no notice of its remote. -/
theorem turn_of_not_started (h : Shown x k name d r) (hs : d.started = false)
    (state : Connection) :
    Shown (x.turn state x.started) k name d { r with state, poisoned := false } where
  name := h.name
  state := rfl
  unpoisoned := rfl
  observers := h.observers
  attached := by
    cases h.attached with
    | following _ _ _ hstarted => simp [hs] at hstarted
    | idle hsub hstarted hstatus hmodel => exact .idle hsub hstarted hstatus hmodel
  started := h.started
  loads := by
    have hnone : x.started = false := h.started.symm.trans hs
    simp [Standing.turn, hnone, h.loads]

theorem loads_follow (h : Shown x k name d r) (state : Connection) :
    (d.model.follow state).1.loads = (x.turn state true).loads := by
  rw [Model.loads_follow, h.model]
  simp [Standing.turn, Model.empty, Bool.and_comm]

/-- A device that has been started is told what becomes of its remote. -/
theorem turn_of_started (h : Shown x k name d r) (hs : d.started = true) {state : Connection}
    (ht : d.Told state d') :
    Shown (x.turn state x.started) k name d' { r with state, poisoned := false } := by
  have hstarted : x.started = true := h.started.symm.trans hs
  have hattached : d'.Attached k { r with state, poisoned := false } := by
    cases h.attached with
    | idle _ hnot => simp [hs] at hnot
    | following id _ hsub _ hmem => exact ht.attached hs hsub hmem rfl
  refine ⟨h.name, rfl, rfl, ?_, hattached, ht.started.trans h.started, ?_⟩
  · rw [ht.subscription]
    exact h.observers
  · rw [ht.model, hstarted]
    exact h.loads_follow state

/-- A device is told the state of its remote when it is started. -/
theorem turn_of_start (h : Shown x k name d r) (hs : d.started = false)
    (ht : ({ d with started := true } : Device).Told r.state d') :
    Shown (x.turn x.state true) k name { d' with subscription := some r.nextObserver }
      (r.gain (.device k)) := by
  obtain ⟨-, hnobody⟩ := h.observers_of_not_started hs
  have hobservers : (r.gain (.device k)).observers = [(r.nextObserver, .device k)] := by
    simp [Remote.gain, hnobody]
  refine ⟨h.name, h.state, h.unpoisoned, ?_, ?_, ht.started, ?_⟩
  · intro e he
    rw [hobservers] at he
    obtain rfl := List.mem_singleton.1 he
    exact ⟨rfl, rfl⟩
  · refine .following r.nextObserver r.state rfl ht.started ?_ ht.status ?_ fun _ => rfl
    · simp [hobservers]
    · exact ht.model ▸ Model.loaded_follow d.model r.state
  · rw [← h.state]
    exact ht.model ▸ h.loads_follow r.state

end Shown

/-- A site has a device that stands as the commands say. -/
def Shows (s : Site) (k : DeviceKey) (name : Text) (x : Standing) : Prop :=
  ∃ d r, s.device? k = some d ∧ s.remote? d.remote = some r ∧ Shown x k name d r

section Commands

variable {s : Site} {k : DeviceKey} {name : Text} {x : Standing} {d : Device} {r : Remote}

/-- A new device on a new remote stands as without any command. -/
theorem shows_new (s : Site) (name : Text) (senders : List Sender) :
    Shows ((s.addRemote name).1.addDevice s.remotes.length senders).1 s.devices.length name
      (standing []) := by
  refine ⟨{ remote := s.remotes.length, senders }, { name }, ?_, ?_, ?_⟩
  · rw [Site.device?_addDevice]
    exact if_pos rfl
  · rw [Site.remote?_addDevice, Site.remote?_addRemote]
    exact if_pos rfl
  · exact ⟨rfl, rfl, rfl, by simp, .idle rfl rfl rfl rfl, rfl, rfl⟩

theorem shows_setState (hd : s.device? k = some d) (hr : s.remote? d.remote = some r)
    (h : Shown x k name d r) (state : Connection) :
    (s.setState d.remote state).result = .ok () ∧
      Shows (s.setState d.remote state).site k name (x.turn state x.started) := by
  by_cases hs : r.state = state
  · rw [Site.setState_of_eq hr h.unpoisoned hs, ← hs, h.state, x.turn_self]
    exact ⟨rfl, d, r, hd, hr, h⟩
  · have he : Site.StateChanged s d.remote state [] r (s.setState d.remote state) :=
      Site.stateChanged_setState hr h.unpoisoned hs
    have hbreaks := h.breaksAt_eq_false state
    have hresult : (s.setState d.remote state).result = .ok () := by
      rw [he.result, hbreaks]
      rfl
    have hremote : (s.setState d.remote state).site.remote? d.remote =
        some { r with state, poisoned := false } := by
      rw [he.remote?, if_pos rfl, hbreaks]
    refine ⟨hresult, ?_⟩
    by_cases hstarted : d.started = true
    · have htold : told state [] r.observers = r.observers := told_eq_self (by simpa using hbreaks)
      obtain ⟨id, hid⟩ : ∃ id, (id, .device k) ∈ r.observers := by
        cases h.attached with
        | idle _ hnot => simp [hstarted] at hnot
        | following id _ _ _ hmem => exact ⟨id, hmem⟩
      obtain ⟨d', hd', ht⟩ := he.device?_of_told k d id hd (htold.symm ▸ hid)
      exact ⟨d', _, hd', ht.remote ▸ hremote, h.turn_of_started hstarted ht⟩
    · have hstarted : d.started = false := by simpa using hstarted
      obtain ⟨-, hnobody⟩ := h.observers_of_not_started hstarted
      have hdevice : (s.setState d.remote state).site.device? k = some d := by
        rw [he.device?_of_not_told k (by simp [hnobody, told]), hd]
      exact ⟨d, _, hdevice, hremote, h.turn_of_not_started hstarted state⟩

theorem shows_start (hd : s.device? k = some d) (hr : s.remote? d.remote = some r)
    (h : Shown x k name d r) (hs : d.started = false) :
    (s.start k).result = .ok (.ok ()) ∧ Shows (s.start k).site k name (x.turn x.state true) := by
  obtain ⟨hsub, -⟩ := h.observers_of_not_started hs
  have he := Site.started_start hd hr h.unpoisoned hs hsub
  obtain ⟨d', hd', ht⟩ := he.device?
  have hremote : (s.start k).site.remote? d'.remote = some (r.gain (.device k)) := by
    rw [he.remote?, if_pos ht.remote.symm]
  exact ⟨he.result, _, _, hd', hremote, h.turn_of_start hs ht⟩

/-! ## Commands -/

theorem showStatus_of_shows (h : Shows s k name x) :
    showStatus s k = ⟨s, [], .ok (.text (x.line name))⟩ := by
  obtain ⟨d, r, hd, hr, h⟩ := h
  rw [Standing.line_eq_statusText, ← h.status, ← h.model, ← h.name, ← h.state]
  simp only [showStatus, hd]
  exact Site.inspect_of_not_poisoned hr h.unpoisoned

theorem changeState_of_shows (h : Shows s k name x) (state : Connection) :
    (changeState s k state).result = .ok (.text ((x.turn state x.started).line name)) ∧
      Shows (changeState s k state).site k name (x.turn state x.started) := by
  obtain ⟨d, r, hd, hr, h⟩ := h
  obtain ⟨hresult, hshows⟩ := shows_setState hd hr h state
  have hshown := showStatus_of_shows hshows
  simp only [changeState, hd, hresult, hshown]
  exact ⟨trivial, hshows⟩

theorem startDevice_of_not_started (h : Shows s k name x) (hs : x.started = false) :
    (startDevice s k).result = .ok (.text ((x.turn x.state true).line name)) ∧
      Shows (startDevice s k).site k name (x.turn x.state true) := by
  obtain ⟨d, r, hd, hr, h⟩ := h
  obtain ⟨hresult, hshows⟩ := shows_start hd hr h (h.started.trans hs)
  have hshown := showStatus_of_shows hshows
  simp only [startDevice, hresult, hshown]
  exact ⟨trivial, hshows⟩

/-- A later start is refused, and logged as an error. -/
theorem startDevice_of_started (h : Shows s k name x) (hs : x.started = true) :
    startDevice s k =
      ⟨s, [.logged (.startFailed (StartError.alreadyStarted name).message)],
        .ok (.text (errorText (StartError.alreadyStarted name).message))⟩ := by
  obtain ⟨d, r, hd, hr, h⟩ := h
  have hstart := Site.start_of_started hd hr h.unpoisoned (h.started.trans hs)
  simp only [startDevice, hstart, h.name, List.nil_append]

/-- Every command is answered, and takes what the site shows one step further. -/
theorem execute_of_shows (h : Shows s k name x) (command : Command) :
    (execute s k command).result = .ok (x.reply name command) ∧
      Shows (execute s k command).site k name (x.after command) := by
  cases command with
  | connect => exact changeState_of_shows h .connected
  | disconnect => exact changeState_of_shows h .disconnected
  | start =>
    by_cases hs : x.started = true
    · rw [execute, startDevice_of_started h hs, Standing.after_start_of_started hs,
        Standing.reply, if_pos hs]
      exact ⟨rfl, h⟩
    · rw [Standing.reply, if_neg hs]
      exact startDevice_of_not_started h (by simpa using hs)
  | status =>
    rw [execute, showStatus_of_shows h]
    exact ⟨rfl, h⟩
  | lookup | parse | help | quit => exact ⟨rfl, h⟩

/-- Commands that only ask change nothing and leave no trace. -/
theorem execute_of_asking (h : Shows s k name x) {command : Command}
    (hcommand : command ≠ .connect ∧ command ≠ .disconnect ∧ command ≠ .start) :
    (execute s k command).trace = [] ∧ (execute s k command).site = s ∧ x.after command = x := by
  obtain ⟨hconnect, hdisconnect, hstart⟩ := hcommand
  cases command with
  | connect => exact absurd rfl hconnect
  | disconnect => exact absurd rfl hdisconnect
  | start => exact absurd rfl hstart
  | status =>
    rw [execute, showStatus_of_shows h]
    exact ⟨rfl, rfl, rfl⟩
  | lookup | parse | help | quit => exact ⟨rfl, rfl, rfl⟩

end Commands

/-! ## Any commands -/

/-- A site with a new device on a new remote, after commands to that device. -/
def carryOut (s : Site) (name : Text) (senders : List Sender) (history : List Command) : Site :=
  history.foldl (fun s' command => (execute s' s.devices.length command).site)
    ((s.addRemote name).1.addDevice s.remotes.length senders).1

theorem shows_carryOut (s : Site) (name : Text) (senders : List Sender) (history : List Command) :
    Shows (carryOut s name senders history) s.devices.length name (standing history) := by
  induction history using List.reverseRecOn with
  | nil => exact shows_new s name senders
  | append_singleton history command ih =>
    rw [carryOut, List.foldl_append, standing_append]
    exact (execute_of_shows ih command).2

/-- The console follows the three variables.  After any commands to a new device on a new remote,
whatever else is on the site, the next command is answered.  Commands about connections, the first
start and the question for the status are answered with the line for what the commands amount to
then.  A later start is refused with one error in the log, and like every other command it leaves
everything as it is. -/
theorem replies_follow_standing (s : Site) (name : Text) (senders : List Sender)
    (history : List Command) (command : Command) :
    let before := carryOut s name senders history
    let e := execute before s.devices.length command
    let now := standing (history ++ [command])
    e.result = .ok ((standing history).reply name command) ∧
    (command = .connect ∨ command = .disconnect ∨ command = .status ∨
        (command = .start ∧ .start ∉ history) →
      e.result = .ok (.text (now.line name))) ∧
    (command = .start ∧ .start ∈ history →
      e.result = .ok (.text ("error: Device ".toList ++ Text.quote name ++
        " has already been started".toList)) ∧
      (∃ record, e.trace = [.logged record] ∧ record.level = .error) ∧
      e.site = before ∧ now = standing history) ∧
    (command ≠ .connect ∧ command ≠ .disconnect ∧ command ≠ .start →
      e.trace = [] ∧ e.site = before ∧ now = standing history) ∧
    (∃ d r, e.site.device? s.devices.length = some d ∧ e.site.remote? d.remote = some r ∧
      r.name = name ∧ r.state = now.state ∧ d.started = now.started ∧ d.status = now.status ∧
      d.model = { loaded := now.loaded, loads := now.loads }) ∧
    now.loads ≤ (history ++ [command]).length := by
  intro before e now
  have hbefore : Shows before s.devices.length name (standing history) :=
    shows_carryOut s name senders history
  have hnow : now = (standing history).after command := standing_append history command
  have hstarted : (standing history).started = true ↔ .start ∈ history := by simp [standing]
  obtain ⟨hresult, d, r, hd, hr, hshown⟩ := execute_of_shows hbefore command
  rw [← hnow] at hshown
  refine ⟨hresult, ?_, ?_, ?_, ?_, loads_standing_le _⟩
  · rintro (rfl | rfl | rfl | ⟨rfl, hmem⟩)
    · exact hnow ▸ hresult
    · exact hnow ▸ hresult
    · exact hnow ▸ hresult
    · rw [Standing.reply, if_neg fun hs => hmem (hstarted.1 hs), ← hnow] at hresult
      exact hresult
  · rintro ⟨rfl, hmem⟩
    have hs := hstarted.2 hmem
    have he : e = _ := startDevice_of_started hbefore hs
    refine ⟨congrArg Effect.result he, ⟨_, congrArg Effect.trace he, rfl⟩,
      congrArg Effect.site he, hnow.trans (Standing.after_start_of_started hs)⟩
  · intro hcommand
    obtain ⟨htrace, hsite, hsame⟩ := execute_of_asking hbefore hcommand
    exact ⟨htrace, hsite, hnow.trans hsame⟩
  · exact ⟨d, r, hd, hr, hshown.name, hshown.state, hshown.started, hshown.status, hshown.model⟩

/-- A start before any connection, a connection asked for twice, and one more after a gap: two
loads. -/
theorem replies_follow_standing_reconnected :
    (execute (carryOut {} "plc".toList [] [.start, .connect, .connect, .disconnect]) 0
        .connect).result =
      .ok (.text "status: Connected, model: loaded (2 loads), remote plc: connected".toList) := by
  obtain ⟨-, hline, -⟩ := replies_follow_standing {} "plc".toList []
    [.start, .connect, .connect, .disconnect] .connect
  have hnow : standing ([.start, .connect, .connect, .disconnect] ++ [.connect]) =
      ⟨.connected, true, 2⟩ := by decide
  rw [hnow] at hline
  exact hline (Or.inl rfl)

end DeviceTwin.Console
