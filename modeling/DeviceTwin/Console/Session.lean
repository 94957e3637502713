import DeviceTwin.Config.Error
import DeviceTwin.Console.Reply
import DeviceTwin.Console.Stream

/-!
# Sessions

A session has one device on one remote, as a configuration says, and answers the lines of its
input one after the other until a line asks it to quit, the input ends, or something fails.  The
status changes of the device come out of a channel and are announced in the log after each line.
Whatever the session ends with, its device is dropped then.

Where the input is cut into pieces does not matter: a line is answered when it is complete.  If
the input ends in the middle of a line, that line is answered too; if the session is called off or
the input breaks, it is not.

A session fails if its configuration is of no use, if its input or output breaks, or if its device
cannot be started.
-/

namespace DeviceTwin.Console

/-- Why a session fails. -/
inductive Failure where
  | config (error : Config.Error)
  /-- Reading the input or writing the output has failed. -/
  | stream (fault : Files.Fault)
  | device (error : StartError)
  deriving DecidableEq, Repr

/-- The words for a failure. -/
def Failure.message : Failure → Text
  | config error => "Failed to start application (config): ".toList ++ error.message
  | stream fault => "Failed to run application (io): ".toList ++ fault.message
  | device error => "Failed to start device: ".toList ++ error.message

/-- How a session ends. -/
inductive Ending where
  | finished
  | failed (failure : Failure)
  | panicked (panic : Panic)
  deriving DecidableEq, Repr

/-- What comes after the last piece of the input. -/
inductive InputEnd where
  /-- The input is over. -/
  | over
  /-- The session is called off. -/
  | calledOff
  /-- The input cannot be read any further. -/
  | broken (fault : Files.Fault)
  deriving DecidableEq, Repr

/-- A session that is going on or has come to its end. -/
structure Session where
  site : Site := {}
  /-- The device of the session. -/
  device : DeviceKey := 0
  /-- The channel that carries the status changes of the device. -/
  events : ChannelKey := 0
  /-- The bytes of the line that is not complete yet. -/
  unfinished : Bytes := []
  sink : Sink := {}
  trace : Trace := []
  ending : Option Ending := none
  deriving DecidableEq, Repr

/-- What a session leaves behind. -/
structure Outcome where
  output : Bytes
  trace : Trace
  ending : Ending
  deriving DecidableEq, Repr

namespace Session

/-- Logs a record. -/
def log (s : Session) (record : Log.Record) : Session :=
  { s with trace := s.trace ++ [.logged record] }

/-- Ends the session. -/
def stop (s : Session) (ending : Ending) : Session := { s with ending := some ending }

/-- Takes over the effect of an operation and goes on with its result. -/
def after {α : Type} (s : Session) (e : Effect α) (next : Session → α → Session) : Session :=
  let s := { s with site := e.site, trace := s.trace ++ e.trace }
  match e.result with
  | .error panic => s.stop (.panicked panic)
  | .ok a => next s a

/-- Goes on with a session that has not ended. -/
def continueWith (s : Session) (next : Session → Session) : Session :=
  if s.ending.isSome then s else next s

/-- Announces the status changes that wait. -/
def announce (s : Session) : Session :=
  match s.site.channel? s.events with
  | none => s
  | some channel =>
    let (channel, events, _) := channel.receiveAll
    { s with
      site := s.site.modifyChannel s.events fun _ => channel
      trace := s.trace ++ events.map fun status => .logged (.statusAnnounced status) }

/-! ## The beginning -/

/-- Makes the remote and the device of a session, with a channel for the device to publish to. -/
def furnish (c : Config) (room : Option Nat) (flushes : Option Nat := none)
    (fault : Files.Fault := .writeZero) : Session × RemoteKey :=
  let s : Session := { sink := { room, flushes, fault } }
  let e := s.site.addChannel c.eventBuffer.toNat
  match e.result with
  | .error panic => (s.stop (.panicked panic), 0)
  | .ok (events, number) =>
    let (site, remote) := e.site.addRemote c.remoteName
    let (site, device) := site.addDevice remote [{ channel := events, number }]
    ({ s with site, device, events }, remote)

/-- Connects the remote, if the configuration asks for that. -/
def connectOnLaunch (c : Config) (remote : RemoteKey) (s : Session) : Session :=
  if c.connectOnLaunch then s.after (s.site.setState remote .connected) fun s () => s else s

/-- Starts the device, if the configuration asks for that. -/
def startOnLaunch (c : Config) (s : Session) : Session :=
  if c.startOnLaunch then
    s.after (s.site.start s.device) fun s result =>
      match result with
      | .ok () => s
      | .error e => s.stop (.failed (.device e))
  else s

/-- A session before its first line. -/
def launch (c : Config) (room : Option Nat) (flushes : Option Nat := none)
    (fault : Files.Fault := .writeZero) : Session :=
  let (s, remote) := furnish c room flushes fault
  ((s.continueWith (connectOnLaunch c remote)).continueWith (startOnLaunch c)).announce

/-! ## Lines -/

/-- Writes a line. -/
def write (s : Session) (line : Text) : Session :=
  let (sink, complete) := s.sink.put (Utf8.encode (line ++ ['\n']))
  let s := { s with sink }
  if complete then s else s.stop (.failed (.stream sink.fault))

/-- Answers a line. -/
def answer (s : Session) (line : Text) : Session :=
  match Command.parseLine line with
  | .ok none => s
  | .ok (some command) =>
    s.after (execute s.site s.device command) fun s reply =>
      match reply with
      | .quit => s.stop .finished
      | .text t => s.write t
  | .error e => (s.log (.lineRejected line e.message)).write (errorText e.message)

/-- Answers a line that is given by its bytes, with its end. -/
def answerBytes (s : Session) (line : Bytes) : Session :=
  s.continueWith fun s =>
    match Utf8.decode line with
    | .error f => s.stop (.failed (.stream (.notText f)))
    | .ok text => (s.answer (dropEnd text)).announce

/-- Takes a piece of the input. -/
def feed (s : Session) (piece : Bytes) : Session :=
  let (lines, unfinished) := splitLines (s.unfinished ++ piece)
  { lines.foldl answerBytes s with unfinished }

/-! ## The end -/

/-- Ends the session after the last piece of the input, unless it has ended before. -/
def finish (s : Session) (inputEnd : InputEnd) : Session :=
  s.continueWith fun s =>
    match inputEnd with
    | .calledOff => s.stop .finished
    | .broken fault => s.stop (.failed (.stream fault))
    | .over =>
      let s := if s.unfinished = [] then s else s.answerBytes s.unfinished
      s.continueWith fun s => (s.log .inputEnded).stop .finished

/-- Drops the device and tells what is left of the session. -/
def close (s : Session) : Outcome :=
  { output := s.sink.written
    trace := s.trace ++ (s.site.dropDevice s.device).2
    ending := s.ending.getD .finished }

/-- What has been written and logged so far, and the session without it. -/
def drain (s : Session) : Bytes × Trace × Session :=
  (s.sink.written, s.trace, { s with sink := { s.sink with written := [] }, trace := [] })

/-- A session before its first line, unless the configuration cannot be used. -/
def start? (c : Config) (room : Option Nat) (flushes : Option Nat := none)
    (fault : Files.Fault := .writeZero) : Except Failure Session :=
  match c.validate with
  | .error e => .error (.config (.bufferTooLarge e))
  | .ok () => .ok (launch c room flushes fault)

/-- A whole session, with an output that has so much room, is passed on so many times, and then has
that fault.  Nothing is done for a configuration that cannot be used. -/
def run (c : Config) (pieces : List Bytes) (inputEnd : InputEnd) (room : Option Nat)
    (flushes : Option Nat := none) (fault : Files.Fault := .writeZero) : Outcome :=
  match start? c room flushes fault with
  | .error failure => { output := [], trace := [], ending := .failed failure }
  | .ok s => ((pieces.foldl feed s).finish inputEnd).close

end Session

end DeviceTwin.Console
