import DeviceTwin.Config.Basic
import DeviceTwin.Json.Skip

/-!
# The notation of configurations

A configuration is written as a JSON object with one member a line.  Reading takes the members in
any order; members that are missing keep their defaults, members with unknown keys are passed over
whatever they hold, and a known key may occur only once.  The level of the log may also be given
as an object whose only key is the level.  Instead of an object there may be a list of the values
in the order in which they are written; missing ones at its end keep their defaults.
-/

namespace DeviceTwin.Config

open Json

/-- The keys of a configuration. -/
inductive Key where
  | remoteName
  | connectOnLaunch
  | startOnLaunch
  | logLevel
  | eventBuffer
  deriving DecidableEq, Repr

namespace Key

/-- All keys in the order in which they are written. -/
def all : List Key := [remoteName, connectOnLaunch, startOnLaunch, logLevel, eventBuffer]

/-- How a key is written. -/
def name : Key → Text
  | remoteName => "remoteName".toList
  | connectOnLaunch => "connectOnLaunch".toList
  | startOnLaunch => "startOnLaunch".toList
  | logLevel => "logLevel".toList
  | eventBuffer => "eventBuffer".toList

/-- The key that is written so. -/
def ofName? (name : Text) : Option Key := all.find? (·.name = name)

theorem ofName?_name (k : Key) : ofName? k.name = some k := by cases k <;> decide

end Key

/-! ## Writing -/

/-- How a truth value is written. -/
def renderFlag (b : Bool) : Text := if b then "true".toList else "false".toList

/-- How the value under a key is written. -/
def renderValue (c : Config) : Key → Text
  | .remoteName => Json.quote c.remoteName
  | .connectOnLaunch => renderFlag c.connectOnLaunch
  | .startOnLaunch => renderFlag c.startOnLaunch
  | .logLevel => Json.quote c.verbosity.name
  | .eventBuffer => Numeral.render c.eventBuffer.toNat

/-- A member on a line of its own. -/
def renderMember (c : Config) (k : Key) : Text :=
  "  ".toList ++ Json.quote k.name ++ ": ".toList ++ c.renderValue k

/-- Members with a comma at the end of every line but the last. -/
def renderMembers (c : Config) : List Key → Text
  | [] => []
  | [k] => c.renderMember k
  | k :: next :: rest => c.renderMember k ++ ",\n".toList ++ c.renderMembers (next :: rest)

/-- A configuration as a JSON object. -/
def render (c : Config) : Text := "\x7b\n".toList ++ c.renderMembers Key.all ++ "\n\x7d".toList

/-! ## Reading values -/

/-- The fault of a value that is not what was expected, in front of the unread text. -/
def mismatch (expected : Expected) (t : Text) : Fault :=
  let word := fun (letters : String) (rest : Text) (found : Found) =>
    match readWord letters.toList rest with
    | .error f => f
    | .ok rest => faultAt (.wrongType found expected) rest
  let number := fun (minus : Bool) (rest : Text) =>
    match readNumber minus rest with
    | .error f => f
    | .ok (n, rest) => faultAt (.wrongType n.found expected) rest
  match t with
  | [] => faultAt .expectedValue []
  | 'n' :: rest => word "ull" rest .null
  | 't' :: rest => word "rue" rest (.bool true)
  | 'f' :: rest => word "alse" rest (.bool false)
  | '-' :: rest => number true rest
  | '"' :: rest =>
    match readString rest with
    | .error f => f
    | .ok (text, rest) => faultAt (.wrongType (.string text) expected) rest
  | '[' :: _ => faultAt (.wrongType .list expected) t
  | '{' :: _ => faultAt (.wrongType .object expected) t
  | c :: _ => if c.isDigit then number false t else faultAfter .expectedValue t

/-- Reads a JSON string behind white space. -/
def readText (expected : Expected) (t : Text) : Except Fault (Text × Text) :=
  match dropSpace t with
  | [] => .error (faultAt .endInValue [])
  | '"' :: rest => readString rest
  | other => .error (mismatch expected other)

/-- Reads a truth value behind white space. -/
def readFlag (t : Text) : Except Fault (Bool × Text) :=
  match dropSpace t with
  | [] => .error (faultAt .endInValue [])
  | 't' :: rest =>
    match readWord "rue".toList rest with
    | .error f => .error f
    | .ok rest => .ok (true, rest)
  | 'f' :: rest =>
    match readWord "alse".toList rest with
    | .error f => .error f
    | .ok rest => .ok (false, rest)
  | other => .error (mismatch .flag other)

/-- A number of 64 bits, or the fault of having found another one. -/
def countOfNumber (n : Number) (rest : Text) : Except Fault (UInt64 × Text) :=
  match n with
  | .whole n => .ok (.ofNat n, rest)
  | .negative _ => .error (faultAt (.wrongValue n.found .count) rest)
  | .float .. => .error (faultAt (.wrongType n.found .count) rest)

/-- Reads a number of 64 bits behind white space. -/
def readCount (t : Text) : Except Fault (UInt64 × Text) :=
  match dropSpace t with
  | [] => .error (faultAt .endInValue [])
  | '-' :: rest =>
    match readNumber true rest with
    | .error f => .error f
    | .ok (n, rest) => countOfNumber n rest
  | c :: rest =>
    if c.isDigit then
      match readNumber false (c :: rest) with
      | .error f => .error f
      | .ok (n, rest) => countOfNumber n rest
    else .error (mismatch .count (c :: rest))

/-- Reads the word for a verbosity. -/
def readWordOfVerbosity (t : Text) : Except Fault (Log.Verbosity × Text) :=
  match readText .choice t with
  | .error f => .error f
  | .ok (word, rest) =>
    match Log.Verbosity.ofName? word with
    | some v => .ok (v, rest)
    | none =>
      .error (faultAt (.unknownChoice word (Log.Verbosity.all.map Log.Verbosity.name)) rest)

/-- Reads the colon behind a key. -/
def readColon (t : Text) : Except Fault Text :=
  match dropSpace t with
  | [] => .error (faultAt .endInObject [])
  | ':' :: rest => .ok rest
  | other => .error (faultAfter .expectedColon other)

/-- Reads the value null behind white space. -/
def readNull (t : Text) : Except Fault Text :=
  match dropSpace t with
  | [] => .error (faultAt .endInValue [])
  | 'n' :: rest => readWord "ull".toList rest
  | other => .error (mismatch .nothing other)

/-- Reads a verbosity as an object, behind its opening bracket. -/
def readObjectOfVerbosity (t : Text) : Except Fault (Log.Verbosity × Text) :=
  match readWordOfVerbosity t with
  | .error f => .error f
  | .ok (v, rest) =>
    match readColon rest with
    | .error f => .error f
    | .ok rest =>
      match readNull rest with
      | .error f => .error f
      | .ok rest =>
        match dropSpace rest with
        | [] => .error (faultAt .endInObject [])
        | '}' :: rest => .ok (v, rest)
        | other => .error (faultAt .expectedValue other)

/-- Reads a verbosity behind white space. -/
def readVerbosity (t : Text) : Except Fault (Log.Verbosity × Text) :=
  match dropSpace t with
  | [] => .error (faultAt .endInValue [])
  | '{' :: rest => readObjectOfVerbosity rest
  | '"' :: rest => readWordOfVerbosity ('"' :: rest)
  | other => .error (faultAfter .expectedValue other)

/-! ## Reading members -/

/-- The members that have been read. -/
structure Draft where
  remoteName : Option Text := none
  connectOnLaunch : Option Bool := none
  startOnLaunch : Option Bool := none
  verbosity : Option Log.Verbosity := none
  eventBuffer : Option UInt64 := none
  deriving DecidableEq, Repr

/-- Whether there is a value under a key. -/
def Draft.has (d : Draft) : Key → Bool
  | .remoteName => d.remoteName.isSome
  | .connectOnLaunch => d.connectOnLaunch.isSome
  | .startOnLaunch => d.startOnLaunch.isSome
  | .logLevel => d.verbosity.isSome
  | .eventBuffer => d.eventBuffer.isSome

/-- The configuration with what has been read and the defaults for the rest. -/
def Draft.complete (d : Draft) : Config :=
  let base : Config := {}
  { remoteName := d.remoteName.getD base.remoteName
    connectOnLaunch := d.connectOnLaunch.getD base.connectOnLaunch
    startOnLaunch := d.startOnLaunch.getD base.startOnLaunch
    verbosity := d.verbosity.getD base.verbosity
    eventBuffer := d.eventBuffer.getD base.eventBuffer }

/-- Reads the value under a key. -/
def readValue (d : Draft) (k : Key) (t : Text) : Except Fault (Draft × Text) :=
  match k with
  | .remoteName => (readText .text t).map fun p => ({ d with remoteName := some p.1 }, p.2)
  | .connectOnLaunch => (readFlag t).map fun p => ({ d with connectOnLaunch := some p.1 }, p.2)
  | .startOnLaunch => (readFlag t).map fun p => ({ d with startOnLaunch := some p.1 }, p.2)
  | .logLevel => (readVerbosity t).map fun p => ({ d with verbosity := some p.1 }, p.2)
  | .eventBuffer => (readCount t).map fun p => ({ d with eventBuffer := some p.1 }, p.2)

/-- The fault of a key that occurs again, in front of the text behind the key.  White space, and a
closing bracket if it comes next, are passed over before the place is taken. -/
def duplicateFault (k : Key) (t : Text) : Fault :=
  match dropSpace t with
  | '}' :: rest => faultAt (.duplicateKey k.name) rest
  | other => faultAt (.duplicateKey k.name) other

/-- Reads a member behind the opening mark of its key. -/
def readMember (d : Draft) (t : Text) : Except Fault (Draft × Text) :=
  match readString t with
  | .error f => .error f
  | .ok (name, rest) =>
    match Key.ofName? name with
    | none =>
      match readColon rest with
      | .error f => .error f
      | .ok rest => (skipValue rest).map fun rest => (d, rest)
    | some k =>
      if d.has k then .error (duplicateFault k rest)
      else
        match readColon rest with
        | .error f => .error f
        | .ok rest => readValue d k rest

end DeviceTwin.Config
