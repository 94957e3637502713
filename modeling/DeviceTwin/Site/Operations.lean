import DeviceTwin.Site.Notify

/-!
# Operations on a site

Remotes are told to connect and to disconnect, observers come and go, devices are started and
dropped.  Every operation that uses a remote is broken off if the remote is poisoned; only giving
an observer up works on, and poisons nothing.
-/

namespace DeviceTwin

/-- Why a device is not started. -/
inductive StartError where
  /-- It has been started before; carries the name of its remote. -/
  | alreadyStarted (remote : Text)
  deriving DecidableEq, Repr

/-- The words for an error. -/
def StartError.message : StartError → Text
  | alreadyStarted remote =>
    "Device ".toList ++ Text.quote remote ++ " has already been started".toList

/-- How a remote describes itself. -/
def Remote.describe (r : Remote) : Text :=
  "RemoteDevice \x7b name: ".toList ++ Text.quote r.name ++ ", connected: ".toList ++
    (if r.state.isConnected then "true".toList else "false".toList) ++ ", observers: ".toList ++
    Numeral.render r.observers.length ++ " \x7d".toList

namespace Site

/-! ## New things -/

/-- Adds a remote that is disconnected and has no observers. -/
def addRemote (s : Site) (name : Text) : Site × RemoteKey :=
  ({ s with remotes := s.remotes ++ [{ name }] }, s.remotes.length)

/-- Adds a channel with one sender. -/
def addChannel (s : Site) (buffer : Nat) : Effect (ChannelKey × Nat) :=
  if Channel.bufferLimit ≤ buffer then ⟨s, [], .error .bufferTooLarge⟩
  else
    let (channel, sender) := Channel.addSender { buffer }
    ⟨{ s with channels := s.channels ++ [channel] }, [], .ok (s.channels.length, sender)⟩

/-- Makes a new sender for each of the channels. -/
def addSenders (s : Site) : List ChannelKey → Site × List Sender
  | [] => (s, [])
  | key :: rest =>
    match s.channel? key with
    | none => s.addSenders rest
    | some channel =>
      let (channel, number) := channel.addSender
      let (s, others) := addSenders { s with channels := s.channels.set key channel } rest
      (s, { channel := key, number } :: others)

/-- Adds a device for a remote that publishes to the given senders. -/
def addDevice (s : Site) (remote : RemoteKey) (senders : List Sender) : Site × DeviceKey :=
  ({ s with devices := s.devices ++ [some { remote, senders }] }, s.devices.length)

/-! ## Remotes -/

/-- Reads something off a remote, unless it is poisoned. -/
def inspect {α : Type} (s : Site) (key : RemoteKey) (f : Remote → α) : Effect α :=
  match s.remote? key with
  | none => ⟨s, [], .error .dangling⟩
  | some r => if r.poisoned then ⟨s, [], .error .poisonedRemote⟩ else ⟨s, [], .ok (f r)⟩

/-- Connects or disconnects a remote.  Its observers hear of it only if that is a change; the
recorders that are upset then fail. -/
def setState (s : Site) (key : RemoteKey) (state : Connection) (upset : List ObserverId := []) :
    Effect Unit :=
  match s.remote? key with
  | none => ⟨s, [], .error .dangling⟩
  | some r =>
    if r.poisoned then ⟨s, [], .error .poisonedRemote⟩
    else if r.state = state then ⟨s, [.logged (.remoteUnchanged r.name state)], .ok ()⟩
    else
      let c := (s.modifyRemote key ({ · with state })).callAll key state upset r.observers
      let trace := .logged (.remoteChanged r.name state) :: c.trace
      if c.failed then
        ⟨c.site.modifyRemote key ({ · with poisoned := true }), trace, .error .observerFailed⟩
      else ⟨c.site, trace, .ok ()⟩

/-- Adds an observer to a remote.  It is first told the present state; if it fails then, it is not
added. -/
def subscribe (s : Site) (key : RemoteKey) (observer : Observer) : Effect ObserverId :=
  match s.remote? key with
  | none => ⟨s, [], .error .dangling⟩
  | some r =>
    if r.poisoned then ⟨s, [], .error .poisonedRemote⟩
    else
      let c := s.call key r.nextObserver observer r.state
      if c.failed then
        ⟨c.site.modifyRemote key ({ · with poisoned := true }), c.trace, .error .observerFailed⟩
      else
        ⟨c.site.modifyRemote key fun r =>
            { r with
              observers := r.observers ++ [(r.nextObserver, observer)]
              nextObserver := r.nextObserver + 1 },
          c.trace ++ [.logged (.observerGained r.name r.nextObserver)], .ok r.nextObserver⟩

/-- Takes an observer from a remote, also from a poisoned one. -/
def unsubscribe (s : Site) (key : RemoteKey) (id : ObserverId) : Site × Trace :=
  match s.remote? key with
  | none => (s, [])
  | some r =>
    (s.modifyRemote key fun r => { r with observers := r.observers.filter (·.1 != id) },
      [.logged (.observerLost r.name id)])

/-! ## Devices -/

/-- Starts a device: from now on it follows its remote.  The remote is asked for its name before
anything else happens, so that nothing has changed if that fails. -/
def start (s : Site) (key : DeviceKey) : Effect (Except StartError Unit) :=
  match s.device? key with
  | none => ⟨s, [], .error .dangling⟩
  | some d =>
    match (s.inspect d.remote Remote.name).result with
    | .error panic => ⟨s, [], .error panic⟩
    | .ok name =>
      if d.started then ⟨s, [], .ok (.error (.alreadyStarted name))⟩
      else
        let e := (s.modifyDevice key ({ · with started := true })).subscribe d.remote (.device key)
        let trace := .logged (.deviceStarting name) :: e.trace
        match e.result with
        | .error panic => ⟨e.site, trace, .error panic⟩
        | .ok id =>
          if d.subscription.isSome then
            let (site, more) := e.site.unsubscribe d.remote id
            ⟨site, trace ++ more, .error .subscribedTwice⟩
          else
            ⟨e.site.modifyDevice key ({ · with subscription := some id }), trace, .ok (.ok ())⟩

/-- Gives up senders. -/
def dropSenders (s : Site) : List Sender → Site
  | [] => s
  | sender :: rest =>
    dropSenders (s.modifyChannel sender.channel (·.dropSender sender.number)) rest

/-- Drops a device.  It stops observing its remote, also if that is poisoned. -/
def dropDevice (s : Site) (key : DeviceKey) : Site × Trace :=
  match s.device? key with
  | none => (s, [])
  | some d =>
    let (s, trace) :=
      match d.subscription with
      | some id => s.unsubscribe d.remote id
      | none => (s, [])
    let s := s.dropSenders d.senders
    ({ s with devices := s.devices.set key none }, trace)

end Site

end DeviceTwin
