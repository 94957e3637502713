import DeviceTwin.Config.Store
import DeviceTwin.Console.Session
import DeviceTwin.Program.Arguments

/-!
# Runs of the program

A run finds its configuration, holds a session with it, and reports an error in the log before it
ends.  Until the configuration has been read, the arguments alone say how much is logged; from
then on the configuration does, unless the arguments do.
-/

namespace DeviceTwin.Program

/-- The name of the program. -/
def name : Text := "device-mirror".toList

/-- The version of the program. -/
def version : Text := "0.1.0".toList

/-- The line that shows the version. -/
def versionText : Text := name ++ ' ' :: version ++ ['\n']

/-- The lines that show the usage. -/
def helpText : Text :=
  Text.unlines [
    "Mirror the connection state of a simulated remote device".toList,
    [],
    "Usage: ".toList ++ name ++ " [OPTIONS]".toList,
    [],
    "Options:".toList,
    "      --config <CONFIG>        Path of the JSON config file".toList,
    "      --log-level <LOG_LEVEL>  Overrides the log level from the config file ".toList ++
      "[possible values: off, error, warn, info, debug, trace]".toList,
    "  -h, --help                   Print help".toList,
    "  -V, --version                Print version".toList ]

/-- What a run leaves behind. -/
structure Outcome where
  exitCode : UInt8
  output : Bytes := []
  log : List Log.Record := []
  deriving DecidableEq, Repr

/-- How much is logged until the configuration has been read. -/
def Arguments.firstVerbosity (a : Arguments) : Log.Verbosity := a.verbosity.getD .info

/-- How much is logged once the configuration has been read. -/
def Arguments.lastVerbosity (a : Arguments) (c : Config) : Log.Verbosity :=
  a.verbosity.getD c.verbosity

/-- Finds the configuration, and says what that brings into the log. -/
def configure (files : Files.Tree) (place : Config.Surroundings) (a : Arguments) :
    Except Config.Error Config × List Log.Record :=
  match Config.resolve files place a.config with
  | (.error e, records) => (.error e, records)
  | (.ok path, records) =>
    let (config, more) := Config.readOrDefault files path
    (config, records ++ more)

/-- The records about how a session ended. -/
def report : Console.Ending → List Log.Record
  | .failed failure => [.programFailed failure.message]
  | _ => []

/-- The exit code after a session. -/
def exitCode : Console.Ending → UInt8
  | .finished => 0
  | .failed _ => 1
  | .panicked _ => 101

/-- A run whose input comes in the given pieces and then ends. -/
def runWith (files : Files.Tree) (place : Config.Surroundings) (a : Arguments)
    (pieces : List Bytes) : Outcome :=
  let (config, records) := configure files place a
  let first := Log.keep a.firstVerbosity (.programStarted name version :: records)
  match config with
  | .error e =>
    { exitCode := 1
      log := first ++ Log.keep a.firstVerbosity (report (.failed (.config e))) }
  | .ok config =>
    let session := Console.Session.run config pieces .over none
    { exitCode := exitCode session.ending
      output := session.output
      log := first ++ Log.keep (a.lastVerbosity config)
        (session.trace.records ++ report session.ending) }

/-- A run with the given arguments. -/
def run (files : Files.Tree) (place : Config.Surroundings) (arguments : List Text)
    (pieces : List Bytes) : Outcome :=
  match Arguments.parse arguments with
  | .error _ => { exitCode := 2 }
  | .ok .help => { exitCode := 0, output := Utf8.encode helpText }
  | .ok .version => { exitCode := 0, output := Utf8.encode versionText }
  | .ok (.run a) => runWith files place a pieces

end DeviceTwin.Program
