import DeviceTwin.Log

/-!
# The model of a device

A device keeps a model that is loaded while its remote is connected and empty otherwise.  The
model counts how often it went from empty to loaded; loading a loaded model and emptying an empty
one do nothing.
-/

namespace DeviceTwin

/-- The model of a device. -/
structure Model where
  /-- Whether the model is loaded. -/
  loaded : Bool := false
  /-- How often the model has gone from empty to loaded. -/
  loads : Nat := 0
  deriving DecidableEq, Repr

namespace Model

/-- Whether the model is empty. -/
def empty (m : Model) : Bool := !m.loaded

/-- Loads the model. -/
def load (m : Model) : Model × List Log.Record :=
  if m.loaded then (m, [])
  else ({ loaded := true, loads := m.loads + 1 }, [.modelLoaded (m.loads + 1)])

/-- Empties the model. -/
def unload (m : Model) : Model × List Log.Record :=
  if m.loaded then ({ m with loaded := false }, [.modelUnloaded]) else (m, [])

/-- Loads or empties the model as a remote in the given state asks for. -/
def follow (m : Model) : Connection → Model × List Log.Record
  | .connected => m.load
  | .disconnected => m.unload

theorem loaded_follow (m : Model) (c : Connection) :
    (m.follow c).1.loaded = c.isConnected := by
  cases c <;> by_cases h : m.loaded <;> simp [follow, load, unload, Connection.isConnected, h]

theorem loads_follow (m : Model) (c : Connection) :
    (m.follow c).1.loads = m.loads + if c.isConnected && m.empty then 1 else 0 := by
  cases c <;> by_cases h : m.loaded <;>
    simp [follow, load, unload, Connection.isConnected, empty, h]

end Model

end DeviceTwin
