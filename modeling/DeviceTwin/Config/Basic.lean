import DeviceTwin.Log

/-!
# Configurations

A configuration names the remote, says what happens before the first command is read, how much is
logged, and how many status changes may wait to be announced.  Any number of 64 bits can be given
for the last of these, but only up to `maxEventBuffer` it can be used.
-/

namespace DeviceTwin

/-- The settings of a session. -/
structure Config where
  /-- The name of the remote. -/
  remoteName : Text := "remote".toList
  /-- Whether the remote is connected before the first command is read. -/
  connectOnLaunch : Bool := false
  /-- Whether the device is started before the first command is read. -/
  startOnLaunch : Bool := true
  /-- Up to which level records are logged. -/
  verbosity : Log.Verbosity := .info
  /-- The buffer of the channel that carries the status changes of the device. -/
  eventBuffer : UInt64 := 64
  deriving DecidableEq, Repr

namespace Config

/-- The largest buffer that can be used. -/
def maxEventBuffer : Nat := 65536

/-- An event buffer that is too large. -/
structure BufferTooLarge where
  value : UInt64
  deriving DecidableEq, Repr

/-- The words for the error. -/
def BufferTooLarge.message (e : BufferTooLarge) : Text :=
  "eventBuffer ".toList ++ Numeral.render e.value.toNat ++ " exceeds the maximum of ".toList ++
    Numeral.render maxEventBuffer

/-- Refuses a configuration that cannot be used. -/
def validate (c : Config) : Except BufferTooLarge Unit :=
  if maxEventBuffer < c.eventBuffer.toNat then .error ⟨c.eventBuffer⟩ else .ok ()

theorem validate_eq_ok_iff (c : Config) :
    c.validate = .ok () ↔ c.eventBuffer.toNat ≤ maxEventBuffer := by
  unfold validate
  split <;> simp <;> omega

end Config

end DeviceTwin
