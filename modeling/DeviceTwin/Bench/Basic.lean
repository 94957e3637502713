import DeviceTwin.Bench.Named
import DeviceTwin.Site.Operations

/-!
# Benches

On a bench the things of a site are held by name: handles of remotes, devices, subscriptions, and
the two ends of channels.  Several handles may hold one remote, and a device holds its remote too;
a remote exists as long as something holds it, and a subscription does not count.

An action is carried out by `step`.  Putting something under a name that is in use first makes the
new thing and then drops the old one.
-/

namespace DeviceTwin

/-- An observer that was added by name. -/
structure Subscription where
  remote : RemoteKey
  observer : ObserverId
  deriving DecidableEq, Repr

/-- What is held of a channel. -/
structure ChannelEnds where
  channel : ChannelKey
  /-- The sender, unless it has been dropped. -/
  sender : Option Nat
  /-- Whether the receiver is held. -/
  receiver : Bool := true
  deriving DecidableEq, Repr

/-- A site and the names by which its things are held. -/
structure Bench where
  site : Site := {}
  handles : Named RemoteKey := {}
  devices : Named DeviceKey := {}
  subscriptions : Named Subscription := {}
  channels : Named ChannelEnds := {}
  deriving DecidableEq, Repr

/-- A way to a remote: a handle, or a device that holds it. -/
inductive Holder where
  | handle (name : Text)
  | device (name : Text)
  deriving DecidableEq, Repr

/-- What can be asked of a remote. -/
inductive RemoteQuery where
  | name
  | connected
  | state
  | observerCount
  | description
  deriving DecidableEq, Repr

/-- What can be asked of a device. -/
inductive DeviceQuery where
  | status
  | model
  | started
  deriving DecidableEq, Repr

/-- What can be done on a bench. -/
inductive Action where
  /-- Makes a remote and holds it by a handle. -/
  | newRemote (handle name : Text)
  /-- Holds the remote of another holder by a handle. -/
  | cloneRemote (handle : Text) (source : Holder)
  | dropRemote (handle : Text)
  /-- Makes a device that publishes to a new sender of each of the channels. -/
  | newDevice (device : Text) (remote : Holder) (channels : List Text)
  | dropDevice (device : Text)
  | start (device : Text)
  /-- Connects or disconnects a remote.  A recorder may fail at any call, not only when it is told
  what it always fails on; `upset` has the numbers of those that fail at this one. -/
  | setState (remote : Holder) (state : Connection) (upset : List ObserverId := [])
  | askRemote (remote : Holder) (query : RemoteQuery)
  | askDevice (device : Text) (query : DeviceQuery)
  /-- Adds a recorder; it fails when it is told `failsOn`. -/
  | subscribe (subscription : Text) (remote : Holder) (failsOn : Option Connection)
  | unsubscribe (subscription : Text)
  | newChannel (channel : Text) (buffer : Nat)
  | dropSender (channel : Text)
  | closeReceiver (channel : Text)
  | dropReceiver (channel : Text)
  /-- Takes events that wait, at most `limit` if there is a limit. -/
  | receive (channel : Text) (limit : Option Nat)
  deriving DecidableEq, Repr

/-- How an action ends. -/
inductive Answer where
  | done
  | name (name : Text)
  | description (text : Text)
  | flag (value : Bool)
  | state (state : Connection)
  | count (n : Nat)
  | status (status : Status)
  | model (model : Model)
  | subscribed (observer : ObserverId)
  | received (events : List Status) (ending : Channel.Ending)
  | refused (error : StartError)
  | panicked (panic : Panic)
  /-- A name stands for nothing. -/
  | unknown (name : Text)
  deriving DecidableEq, Repr

/-- How an action ends and what it brings about. -/
structure Outcome where
  answer : Answer
  trace : Trace := []
  deriving DecidableEq, Repr

namespace Bench

/-- The remote behind a holder. -/
def remoteKey? (b : Bench) : Holder → Option RemoteKey
  | .handle name => b.handles.get? name
  | .device name => do
    let key ← b.devices.get? name
    let device ← b.site.device? key
    some device.remote

/-- The name that a holder goes by. -/
def holderName : Holder → Text
  | .handle name => name
  | .device name => name

/-- Whether something holds a remote, so that it still exists. -/
def isHeld (b : Bench) (key : RemoteKey) : Bool :=
  b.handles.any (· = key) || b.site.devices.any fun d => d.any (·.remote = key)

/-- The bench with another site, and an outcome, from an operation on the site. -/
def conclude {α : Type} (b : Bench) (e : Effect α) (answer : α → Answer) : Bench × Outcome :=
  ({ b with site := e.site },
    { answer := match e.result with | .ok a => answer a | .error p => .panicked p
      trace := e.trace })

/-- Drops a subscription.  If its remote does not exist any more, nothing happens. -/
def dropSubscription (b : Bench) (s : Subscription) : Bench × Trace :=
  if b.isHeld s.remote then
    let (site, trace) := b.site.unsubscribe s.remote s.observer
    ({ b with site }, trace)
  else (b, [])

/-- Drops a device that is held by key. -/
def dropDeviceKey (b : Bench) (key : DeviceKey) : Bench × Trace :=
  let (site, trace) := b.site.dropDevice key
  ({ b with site }, trace)

/-- Drops what is held of a channel. -/
def dropEnds (b : Bench) (ends : ChannelEnds) : Bench :=
  let site := b.site.modifyChannel ends.channel fun c =>
    let c := match ends.sender with | some n => c.dropSender n | none => c
    if ends.receiver then c.dropReceiver else c
  { b with site }

/-- What a remote answers. -/
def answerRemote : RemoteQuery → Remote → Answer
  | .name, r => .name r.name
  | .connected, r => .flag r.state.isConnected
  | .state, r => .state r.state
  | .observerCount, r => .count r.observers.length
  | .description, r => .description r.describe

/-- What a device answers. -/
def answerDevice : DeviceQuery → Device → Answer
  | .status, d => .status d.status
  | .model, d => .model d.model
  | .started, d => .flag d.started

/-- The keys of channels, or the first name that stands for none. -/
def channelKeys (b : Bench) : List Text → Except Text (List ChannelKey)
  | [] => .ok []
  | name :: rest =>
    match b.channels.get? name with
    | none => .error name
    | some ends => (b.channelKeys rest).map (ends.channel :: ·)

/-- Does something with a remote. -/
def withRemote (b : Bench) (holder : Holder) (f : RemoteKey → Bench × Outcome) :
    Bench × Outcome :=
  match b.remoteKey? holder with
  | none => (b, { answer := .unknown (holderName holder) })
  | some key => f key

/-- Does something with a device. -/
def withDevice (b : Bench) (name : Text) (f : DeviceKey → Bench × Outcome) : Bench × Outcome :=
  match b.devices.get? name with
  | none => (b, { answer := .unknown name })
  | some key => f key

/-- Does something with what is held of a channel. -/
def withChannel (b : Bench) (name : Text) (f : ChannelEnds → Bench × Outcome) : Bench × Outcome :=
  match b.channels.get? name with
  | none => (b, { answer := .unknown name })
  | some ends => f ends

/-- Carries out an action. -/
def step (b : Bench) : Action → Bench × Outcome
  | .newRemote handle name =>
    let (site, key) := b.site.addRemote name
    ({ b with site, handles := b.handles.put handle key }, { answer := .done })
  | .cloneRemote handle source =>
    b.withRemote source fun key =>
      ({ b with handles := b.handles.put handle key }, { answer := .done })
  | .dropRemote handle => ({ b with handles := b.handles.erase handle }, { answer := .done })
  | .newDevice device remote channels =>
    b.withRemote remote fun key =>
      match b.channelKeys channels with
      | .error name => (b, { answer := .unknown name })
      | .ok keys =>
        let (site, senders) := b.site.addSenders keys
        let (site, new) := site.addDevice key senders
        let old := b.devices.get? device
        let b := { b with site, devices := b.devices.put device new }
        match old with
        | none => (b, { answer := .done })
        | some old =>
          let (b, trace) := b.dropDeviceKey old
          (b, { answer := .done, trace })
  | .dropDevice device =>
    b.withDevice device fun key =>
      let (b, trace) := b.dropDeviceKey key
      ({ b with devices := b.devices.erase device }, { answer := .done, trace })
  | .start device =>
    b.withDevice device fun key =>
      b.conclude (b.site.start key) fun
        | .ok () => .done
        | .error e => .refused e
  | .setState remote state upset =>
    b.withRemote remote fun key => b.conclude (b.site.setState key state upset) fun () => .done
  | .askRemote remote query =>
    b.withRemote remote fun key => b.conclude (b.site.inspect key (answerRemote query)) id
  | .askDevice device query =>
    b.withDevice device fun key =>
      match b.site.device? key with
      | none => (b, { answer := .panicked .dangling })
      | some d => (b, { answer := answerDevice query d })
  | .subscribe subscription remote failsOn =>
    b.withRemote remote fun key =>
      let e := b.site.subscribe key (.recorder subscription failsOn)
      let (b, outcome) := b.conclude e .subscribed
      match e.result with
      | .error _ => (b, outcome)
      | .ok observer =>
        let old := b.subscriptions.get? subscription
        let b := { b with
          subscriptions := b.subscriptions.put subscription { remote := key, observer } }
        match old with
        | none => (b, outcome)
        | some old =>
          let (b, trace) := b.dropSubscription old
          (b, { outcome with trace := outcome.trace ++ trace })
  | .unsubscribe subscription =>
    match b.subscriptions.get? subscription with
    | none => (b, { answer := .unknown subscription })
    | some s =>
      let (b, trace) := b.dropSubscription s
      ({ b with subscriptions := b.subscriptions.erase subscription }, { answer := .done, trace })
  | .newChannel channel buffer =>
    let e := b.site.addChannel buffer
    match e.result with
    | .error p => (b, { answer := .panicked p })
    | .ok (key, sender) =>
      let old := b.channels.get? channel
      let b := { b with
        site := e.site
        channels := b.channels.put channel { channel := key, sender := some sender } }
      match old with
      | none => (b, { answer := .done })
      | some ends => (b.dropEnds ends, { answer := .done })
  | .dropSender channel =>
    b.withChannel channel fun ends =>
      let b := b.dropEnds { ends with receiver := false }
      ({ b with channels := b.channels.put channel { ends with sender := none } },
        { answer := .done })
  | .closeReceiver channel =>
    b.withChannel channel fun ends =>
      let site := b.site.modifyChannel ends.channel Channel.close
      ({ b with site }, { answer := .done })
  | .dropReceiver channel =>
    b.withChannel channel fun ends =>
      let b := b.dropEnds { ends with sender := none }
      ({ b with channels := b.channels.put channel { ends with receiver := false } },
        { answer := .done })
  | .receive channel limit =>
    b.withChannel channel fun ends =>
      match b.site.channel? ends.channel with
      | none => (b, { answer := .panicked .dangling })
      | some c =>
        let (c, events, ending) :=
          match limit with
          | some n => c.receiveUpTo n
          | none => c.receiveAll
        ({ b with site := b.site.modifyChannel ends.channel fun _ => c },
          { answer := .received events ending })

/-- Carries out actions one after the other. -/
def run (b : Bench) : List Action → Bench × List Outcome
  | [] => (b, [])
  | a :: rest =>
    let (b, outcome) := b.step a
    let (b, outcomes) := b.run rest
    (b, outcome :: outcomes)

/-- A bench that actions lead to from an empty one. -/
def Reachable (b : Bench) : Prop := ∃ actions, (run {} actions).1 = b

end Bench

end DeviceTwin
