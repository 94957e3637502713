import DeviceTwin.Channel
import DeviceTwin.Model

/-!
# Sites

A site is what exists at one moment: remotes with their observers, devices that follow remotes,
and the channels to which devices publish.  Each of them has a key, its place in the list of its
kind.  Keys are never used again: a remote that nobody holds any more stays in its place, and a
device that has been dropped leaves an empty one.

What an operation brings about is recorded as a list of happenings in their order: records for the
log, calls of observers, and what becomes of status changes that a device publishes.
-/

namespace DeviceTwin

/-- The place of a remote. -/
abbrev RemoteKey := Nat

/-- The place of a device. -/
abbrev DeviceKey := Nat

/-- The place of a channel. -/
abbrev ChannelKey := Nat

/-- The number of an observer among those of its remote. -/
abbrev ObserverId := Nat

/-- One sender of one channel. -/
structure Sender where
  channel : ChannelKey
  number : Nat
  deriving DecidableEq, Repr

/-- Who is called when a remote changes. -/
inductive Observer where
  /-- A device, which then follows the remote. -/
  | device (key : DeviceKey)
  /-- A recorder, which notes the call and fails after noting a call with `failsOn`. -/
  | recorder (label : Text) (failsOn : Option Connection)
  deriving DecidableEq, Repr

/-- Whether an observer fails when it is told a state.  A recorder that is upset fails whatever it
is told, and a device never fails. -/
def Observer.fails (observer : Observer) (state : Connection) (upset : Bool) : Bool :=
  match observer with
  | device _ => false
  | recorder _ failsOn => upset || failsOn = some state

/-- Something that can be connected and disconnected. -/
structure Remote where
  name : Text
  state : Connection := .disconnected
  /-- The observers with their numbers, in the order in which they came. -/
  observers : List (ObserverId × Observer) := []
  /-- The number of the next observer. -/
  nextObserver : ObserverId := 0
  /-- Whether an observer has failed while the remote was in use. -/
  poisoned : Bool := false
  deriving DecidableEq, Repr

/-- Something that follows a remote once it has been started. -/
structure Device where
  remote : RemoteKey
  started : Bool := false
  status : Status := .stopped
  model : Model := {}
  /-- The senders to which status changes are published, in order. -/
  senders : List Sender := []
  /-- The number under which the device observes its remote. -/
  subscription : Option ObserverId := none
  deriving DecidableEq, Repr

/-- All remotes, devices and channels by their keys. -/
structure Site where
  remotes : List Remote := []
  devices : List (Option Device) := []
  channels : List Channel := []
  deriving DecidableEq, Repr

/-- One thing that an operation brought about. -/
inductive Happening where
  /-- A record went to the log. -/
  | logged (record : Log.Record)
  /-- An observer of a remote was called. -/
  | called (remote : RemoteKey) (id : ObserverId) (observer : Observer) (state : Connection)
  /-- A device had a status change to publish. -/
  | published (device : DeviceKey) (status : Status)
  /-- A status change was handed to a sender of the device. -/
  | offered (device : DeviceKey) (sender : Sender) (delivery : Channel.Delivery)
  deriving DecidableEq, Repr

/-- Happenings in their order. -/
abbrev Trace := List Happening

/-- The records of a trace. -/
def Trace.records (t : Trace) : List Log.Record :=
  t.filterMap fun | .logged r => some r | _ => none

/-- The calls of recorders in a trace: the label and the state that was noted. -/
def Trace.notes (t : Trace) : List (Text × Connection) :=
  t.filterMap fun | .called _ _ (.recorder label _) state => some (label, state) | _ => none

/-- Why an operation was broken off. -/
inductive Panic where
  /-- The remote is poisoned. -/
  | poisonedRemote
  /-- An observer failed. -/
  | observerFailed
  /-- A device was about to observe its remote a second time. -/
  | subscribedTwice
  /-- A channel was to have a buffer beyond the limit. -/
  | bufferTooLarge
  /-- A key leads nowhere. -/
  | dangling
  deriving DecidableEq, Repr

/-- What an operation leaves behind, what it brought about, and how it ended. -/
structure Effect (α : Type) where
  site : Site
  trace : Trace
  result : Except Panic α

namespace Site

/-- The remote with the given key. -/
def remote? (s : Site) (key : RemoteKey) : Option Remote := s.remotes[key]?

/-- The device with the given key, unless it has been dropped. -/
def device? (s : Site) (key : DeviceKey) : Option Device := s.devices[key]?.join

/-- The channel with the given key. -/
def channel? (s : Site) (key : ChannelKey) : Option Channel := s.channels[key]?

/-- The site with one remote changed. -/
def modifyRemote (s : Site) (key : RemoteKey) (f : Remote → Remote) : Site :=
  { s with remotes := s.remotes.modify key f }

/-- The site with one device changed. -/
def modifyDevice (s : Site) (key : DeviceKey) (f : Device → Device) : Site :=
  { s with devices := s.devices.modify key (Option.map f) }

/-- The site with one channel changed. -/
def modifyChannel (s : Site) (key : ChannelKey) (f : Channel → Channel) : Site :=
  { s with channels := s.channels.modify key f }

/-! ## Changing one thing leaves the others -/

@[simp] theorem remote?_modifyRemote (s : Site) (key : RemoteKey) (f : Remote → Remote)
    (other : RemoteKey) : (s.modifyRemote key f).remote? other =
      if key = other then (s.remote? other).map f else s.remote? other := by
  by_cases h : key = other <;> simp [modifyRemote, remote?, h]

@[simp] theorem device?_modifyRemote (s : Site) (key : RemoteKey) (f : Remote → Remote)
    (other : DeviceKey) : (s.modifyRemote key f).device? other = s.device? other := rfl

@[simp] theorem channel?_modifyRemote (s : Site) (key : RemoteKey) (f : Remote → Remote)
    (other : ChannelKey) : (s.modifyRemote key f).channel? other = s.channel? other := rfl

@[simp] theorem remote?_modifyDevice (s : Site) (key : DeviceKey) (f : Device → Device)
    (other : RemoteKey) : (s.modifyDevice key f).remote? other = s.remote? other := rfl

@[simp] theorem device?_modifyDevice (s : Site) (key : DeviceKey) (f : Device → Device)
    (other : DeviceKey) : (s.modifyDevice key f).device? other =
      if key = other then (s.device? other).map f else s.device? other := by
  by_cases h : key = other
  · subst h
    simp only [modifyDevice, device?, List.getElem?_modify_eq, if_true]
    cases s.devices[key]? <;> rfl
  · simp [modifyDevice, device?, h]

@[simp] theorem channel?_modifyDevice (s : Site) (key : DeviceKey) (f : Device → Device)
    (other : ChannelKey) : (s.modifyDevice key f).channel? other = s.channel? other := rfl

@[simp] theorem remote?_modifyChannel (s : Site) (key : ChannelKey) (f : Channel → Channel)
    (other : RemoteKey) : (s.modifyChannel key f).remote? other = s.remote? other := rfl

@[simp] theorem device?_modifyChannel (s : Site) (key : ChannelKey) (f : Channel → Channel)
    (other : DeviceKey) : (s.modifyChannel key f).device? other = s.device? other := rfl

@[simp] theorem channel?_modifyChannel (s : Site) (key : ChannelKey) (f : Channel → Channel)
    (other : ChannelKey) : (s.modifyChannel key f).channel? other =
      if key = other then (s.channel? other).map f else s.channel? other := by
  by_cases h : key = other <;> simp [modifyChannel, channel?, h]

end Site

end DeviceTwin
