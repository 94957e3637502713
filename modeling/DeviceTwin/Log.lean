import DeviceTwin.Connection
import DeviceTwin.Text.Quoted

/-!
# The log

Everything the program logs is one of the records of this module.  A record has a level and a
message; a verbosity says up to which level records are kept.  Whether a record is kept depends on
its level alone, so a run at one verbosity logs a selection of what it logs at another.
-/

namespace DeviceTwin.Log

/-- How severe a record is. -/
inductive Level where
  | error
  | warn
  | info
  | debug
  | trace
  deriving DecidableEq, Repr

/-- Levels by number, the most severe first. -/
def Level.rank : Level → Nat
  | error => 1
  | warn => 2
  | info => 3
  | debug => 4
  | trace => 5

/-- The word for a level. -/
def Level.name : Level → Text
  | error => "ERROR".toList
  | warn => "WARN".toList
  | info => "INFO".toList
  | debug => "DEBUG".toList
  | trace => "TRACE".toList

/-- Up to which level records are kept. -/
inductive Verbosity where
  | off
  | error
  | warn
  | info
  | debug
  | trace
  deriving DecidableEq, Repr

namespace Verbosity

/-- All verbosities, the quietest first. -/
def all : List Verbosity := [off, error, warn, info, debug, trace]

/-- The word for a verbosity. -/
def name : Verbosity → Text
  | off => "off".toList
  | error => "error".toList
  | warn => "warn".toList
  | info => "info".toList
  | debug => "debug".toList
  | trace => "trace".toList

/-- The verbosity that a word stands for. -/
def ofName? (word : Text) : Option Verbosity := all.find? (·.name = word)

/-- The rank of the least severe level that is kept. -/
def rank : Verbosity → Nat
  | off => 0
  | error => 1
  | warn => 2
  | info => 3
  | debug => 4
  | trace => 5

/-- Whether records of a level are kept. -/
def admits (v : Verbosity) (l : Level) : Bool := l.rank ≤ v.rank

theorem ofName?_name (v : Verbosity) : ofName? v.name = some v := by cases v <;> decide

end Verbosity

/-- Something worth a line in the log. -/
inductive Record where
  /-- The connection of a remote has changed. -/
  | remoteChanged (remote : Text) (state : Connection)
  /-- A remote was asked to be what it already was. -/
  | remoteUnchanged (remote : Text) (state : Connection)
  /-- A remote has a new observer. -/
  | observerGained (remote : Text) (observer : Nat)
  /-- An observer of a remote is gone. -/
  | observerLost (remote : Text) (observer : Nat)
  /-- A device begins to follow a remote. -/
  | deviceStarting (remote : Text)
  /-- A model has been loaded; carries how often that has happened. -/
  | modelLoaded (loads : Nat)
  /-- A model has been emptied. -/
  | modelUnloaded
  /-- The status of a device has changed. -/
  | statusChanged (before after : Status)
  /-- A status change found no room in a channel. -/
  | eventDropped
  /-- A status change has come out of the channel of a session. -/
  | statusAnnounced (status : Status)
  /-- A device could not be started. -/
  | startFailed (reason : Text)
  /-- A line is no command. -/
  | lineRejected (line reason : Text)
  /-- A session has come to the end of its input. -/
  | inputEnded
  /-- A configuration is about to be written. -/
  | configSaving (path : Text)
  /-- A configuration is about to be read. -/
  | configChosen (path : Text)
  /-- There is no configuration where it was looked for. -/
  | configMissing
  /-- There is no configuration next to the executable. -/
  | configNotBesideProgram (path : Text)
  /-- The program begins. -/
  | programStarted (name version : Text)
  /-- The program ends with an error. -/
  | programFailed (reason : Text)
  deriving DecidableEq, Repr

namespace Record

/-- How severe a record is. -/
def level : Record → Level
  | remoteChanged .. | deviceStarting .. | statusChanged .. | statusAnnounced .. | inputEnded
  | configSaving .. | configChosen .. | configMissing | programStarted .. => .info
  | remoteUnchanged .. | observerGained .. | observerLost .. | modelLoaded .. | modelUnloaded
  | configNotBesideProgram .. => .debug
  | eventDropped | lineRejected .. => .warn
  | startFailed .. | programFailed .. => .error

/-- The words of a record. -/
def message : Record → Text
  | remoteChanged remote state => "Remote device ".toList ++ remote ++ ' ' :: state.name
  | remoteUnchanged remote state =>
    "Remote device ".toList ++ remote ++ " is already ".toList ++ state.name
  | observerGained remote observer =>
    "Remote device ".toList ++ remote ++ " gained observer ".toList ++ Numeral.render observer
  | observerLost remote observer =>
    "Remote device ".toList ++ remote ++ " lost observer ".toList ++ Numeral.render observer
  | deviceStarting remote => "Starting device for remote ".toList ++ remote
  | modelLoaded loads =>
    "Model loaded (load #".toList ++ Numeral.render loads ++ ")".toList
  | modelUnloaded => "Model unloaded".toList
  | statusChanged before after =>
    "Device status ".toList ++ before.name ++ " -> ".toList ++ after.name
  | eventDropped => "Dropping DeviceEvent: send failed because channel is full".toList
  | statusAnnounced status => "Device is now ".toList ++ status.name
  | startFailed reason => "Failed to start device: ".toList ++ reason
  | lineRejected line reason =>
    "Rejected command ".toList ++ Text.quote line ++ ": ".toList ++ reason
  | inputEnded => "End of input".toList
  | configSaving path => "Saving config to ".toList ++ path
  | configChosen path => "Using config file ".toList ++ path
  | configMissing => "Config file not found, using defaults".toList
  | configNotBesideProgram path => "No portable config at ".toList ++ path
  | programStarted name version => name ++ ' ' :: version
  | programFailed reason => "Unexpected error: ".toList ++ reason

end Record

/-- The records that a verbosity keeps. -/
def keep (v : Verbosity) (records : List Record) : List Record :=
  records.filter fun r => v.admits r.level

theorem keep_append (v : Verbosity) (records more : List Record) :
    keep v (records ++ more) = keep v records ++ keep v more :=
  List.filter_append records more

theorem keep_trace (records : List Record) : keep .trace records = records := by
  apply List.filter_eq_self.2
  intro r _
  cases r.level <;> decide

theorem keep_off (records : List Record) : keep .off records = [] := by
  apply List.filter_eq_nil_iff.2
  intro r _
  cases r.level <;> decide

/-- A louder run logs everything that a quieter one does. -/
theorem keep_keep_of_rank_le {v w : Verbosity} (h : v.rank ≤ w.rank) (records : List Record) :
    keep v (keep w records) = keep v records := by
  simp only [keep, List.filter_filter]
  refine List.filter_congr fun r _ => ?_
  simp only [Verbosity.admits]
  by_cases hr : r.level.rank ≤ v.rank
  · simp [hr, Nat.le_trans hr h]
  · simp [hr]

end DeviceTwin.Log
