import DeviceTwin.Console.Command
import DeviceTwin.NodeId.Notation
import DeviceTwin.NodeId.Standard
import DeviceTwin.Site.Operations

/-!
# Replies

A command is carried out on a device.  The commands about connections act on the remote of the
device and are answered with the status of everything; the commands about nodes change nothing.
-/

namespace DeviceTwin.Console

/-- What a command is answered with. -/
inductive Reply where
  | text (t : Text)
  /-- The session is to end. -/
  | quit
  deriving DecidableEq, Repr

/-- What the help command shows. -/
def helpText : Text :=
  Text.join '\n' [
    "connect           connect the remote device".toList,
    "disconnect        disconnect the remote device".toList,
    "start             start mirroring the remote device".toList,
    "status            show device, model and remote state".toList,
    "lookup <name>     show the node id of a standard node".toList,
    "parse <node-id>   parse a node id such as ns=1;i=53".toList,
    "help              show this text".toList,
    "quit              exit".toList ]

/-- The line about a device and its remote. -/
def statusText (status : Status) (model : Model) (remote : Text) (state : Connection) : Text :=
  "status: ".toList ++ status.name ++ ", model: ".toList ++
    (if model.loaded then "loaded".toList else "empty".toList) ++ " (".toList ++
    Numeral.render model.loads ++ " loads), remote ".toList ++ remote ++ ": ".toList ++ state.name

/-- The line about an error. -/
def errorText (reason : Text) : Text := "error: ".toList ++ reason

/-- The line about a standard node that was looked up. -/
def lookupText (name : Text) : Text :=
  match StandardNodes.lookup name with
  | some id => name ++ " = ".toList ++ id.render
  | none => "unknown node ".toList ++ Text.quote name

/-- The name of a node, if it is a standard node with a name. -/
def standardName? (id : NodeId) : Option Text :=
  if id.space = NodeId.standardSpace then id.identifier.number?.bind StandardNodes.findName
  else none

/-- The line about an identifier. -/
def describeId (id : NodeId) : Text :=
  let space := (Namespaces.nameOf id.space).getD "unknown namespace".toList
  match standardName? id with
  | some name => id.render ++ " (".toList ++ space ++ ", ".toList ++ name ++ ")".toList
  | none => id.render ++ " (".toList ++ space ++ ")".toList

/-- The line about a text that may be an identifier. -/
def parseText (text : Text) : Text :=
  match NodeId.parse text with
  | .ok id => describeId id
  | .error e => errorText e.message

/-- The reply that shows the status of a device. -/
def showStatus (s : Site) (key : DeviceKey) : Effect Reply :=
  match s.device? key with
  | none => ⟨s, [], .error .dangling⟩
  | some d =>
    s.inspect d.remote fun r => .text (statusText d.status d.model r.name r.state)

/-- Connects or disconnects the remote of a device and shows the status. -/
def changeState (s : Site) (key : DeviceKey) (state : Connection) : Effect Reply :=
  match s.device? key with
  | none => ⟨s, [], .error .dangling⟩
  | some d =>
    let e := s.setState d.remote state
    match e.result with
    | .error p => ⟨e.site, e.trace, .error p⟩
    | .ok () =>
      let shown := showStatus e.site key
      ⟨shown.site, e.trace ++ shown.trace, shown.result⟩

/-- Starts a device and shows the status, or says why the device was not started. -/
def startDevice (s : Site) (key : DeviceKey) : Effect Reply :=
  let e := s.start key
  match e.result with
  | .error p => ⟨e.site, e.trace, .error p⟩
  | .ok (.error refusal) =>
    ⟨e.site, e.trace ++ [.logged (.startFailed refusal.message)],
      .ok (.text (errorText refusal.message))⟩
  | .ok (.ok ()) =>
    let shown := showStatus e.site key
    ⟨shown.site, e.trace ++ shown.trace, shown.result⟩

/-- Carries a command out on a device. -/
def execute (s : Site) (key : DeviceKey) : Command → Effect Reply
  | .connect => changeState s key .connected
  | .disconnect => changeState s key .disconnected
  | .start => startDevice s key
  | .status => showStatus s key
  | .lookup name => ⟨s, [], .ok (.text (lookupText name))⟩
  | .parse text => ⟨s, [], .ok (.text (parseText text))⟩
  | .help => ⟨s, [], .ok (.text helpText)⟩
  | .quit => ⟨s, [], .ok .quit⟩

end DeviceTwin.Console
