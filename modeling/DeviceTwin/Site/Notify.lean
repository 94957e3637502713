import DeviceTwin.Site.Basic

/-!
# Telling observers

A remote tells its observers one after the other, in the order in which they came.  A device that
is told brings its model and its status in line, and publishes the status if it has changed; a
recorder only notes the call.  If an observer fails, those behind it are not told.
-/

namespace DeviceTwin

/-- Hands a status change to the senders of a device in their order.  Senders of closed channels
are given up, all others are kept, also when there was no room. -/
def offer (key : DeviceKey) (status : Status) :
    List Channel → List Sender → List Channel × List Sender × Trace
  | channels, [] => (channels, [], [])
  | channels, sender :: rest =>
    match channels[sender.channel]? with
    | none => offer key status channels rest
    | some channel =>
      match channel.send sender.number status with
      | (channel, .queued) =>
        let (channels, kept, trace) := offer key status (channels.set sender.channel channel) rest
        (channels, sender :: kept, .offered key sender .queued :: trace)
      | (channel, .full) =>
        let (channels, kept, trace) := offer key status (channels.set sender.channel channel) rest
        (channels, sender :: kept,
          .offered key sender .full :: .logged .eventDropped :: trace)
      | (channel, .closed) =>
        let channel := channel.dropSender sender.number
        let (channels, kept, trace) := offer key status (channels.set sender.channel channel) rest
        (channels, kept, .offered key sender .closed :: trace)

/-- Brings a device in line with the state of its remote. -/
def Device.follow (key : DeviceKey) (channels : List Channel) (d : Device) (state : Connection) :
    List Channel × Device × Trace :=
  let status := Status.ofConnection state
  let (model, records) := d.model.follow state
  if d.status = status then (channels, { d with model }, records.map .logged)
  else
    let (channels, senders, trace) := offer key status channels d.senders
    (channels, { d with model, status, senders },
      records.map .logged ++ .logged (.statusChanged d.status status) :: .published key status ::
        trace)

/-- The site after observers have been called, and whether the last of them failed. -/
structure Called where
  site : Site
  trace : Trace
  failed : Bool

namespace Site

/-- Calls one observer of a remote. -/
def call (s : Site) (remote : RemoteKey) (id : ObserverId) (observer : Observer)
    (state : Connection) (upset : Bool := false) : Called :=
  match observer with
  | .recorder .. =>
    { site := s
      trace := [.called remote id observer state]
      failed := observer.fails state upset }
  | .device key =>
    match s.device? key with
    | none => { site := s, trace := [.called remote id observer state], failed := false }
    | some d =>
      let (channels, d, trace) := d.follow key s.channels state
      { site := { s with channels, devices := s.devices.set key (some d) }
        trace := .called remote id observer state :: trace
        failed := false }

/-- Calls observers one after the other until one fails.  Recorders with a number among `upset`
fail. -/
def callAll (s : Site) (remote : RemoteKey) (state : Connection) (upset : List ObserverId) :
    List (ObserverId × Observer) → Called
  | [] => { site := s, trace := [], failed := false }
  | (id, observer) :: rest =>
    let first := s.call remote id observer state (id ∈ upset)
    if first.failed then first
    else
      let others := first.site.callAll remote state upset rest
      { others with trace := first.trace ++ others.trace }

end Site

end DeviceTwin
