import DeviceTwin.Text.Basic

/-!
# Connections and statuses

A remote is connected or not.  A device that follows a remote shows the same by its status, and
shows that it is stopped as long as it has not been started.
-/

namespace DeviceTwin

/-- Whether a remote is connected, as its observers are told. -/
inductive Connection where
  | disconnected
  | connected
  deriving DecidableEq, Repr

/-- What a device shows. -/
inductive Status where
  | stopped
  | connected
  | disconnected
  deriving DecidableEq, Repr

/-- The word for a connection. -/
def Connection.name : Connection → Text
  | disconnected => "disconnected".toList
  | connected => "connected".toList

/-- Whether it is the connected one. -/
def Connection.isConnected (c : Connection) : Bool := c = connected

/-- The word for a status. -/
def Status.name : Status → Text
  | stopped => "Stopped".toList
  | connected => "Connected".toList
  | disconnected => "Disconnected".toList

/-- The status of a started device whose remote is in the given state. -/
def Status.ofConnection : Connection → Status
  | .disconnected => disconnected
  | .connected => connected

namespace Status

variable {c c' : Connection}

@[simp] theorem ofConnection_inj : ofConnection c = ofConnection c' ↔ c = c' := by
  cases c <;> cases c' <;> simp [ofConnection]

@[simp] theorem ofConnection_ne_stopped : ofConnection c ≠ stopped := by
  cases c <;> exact nofun

theorem ofConnection_eq_connected : ofConnection c = connected ↔ c = .connected := by
  cases c <;> simp [ofConnection]

end Status

end DeviceTwin
