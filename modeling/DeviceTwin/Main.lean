import DeviceTwin.Program.Run

/-!
# The command line

Takes the arguments, a picture of the files in question and the standard input to a run of the
program, and shows what it writes and logs while it goes on.
-/

namespace DeviceTwin.Program

/-- A text as a string. -/
def asString (t : Text) : String := String.ofList t

/-- Where log lines go: the standard error, and a file if one is set for that. -/
def openLog : IO (List IO.FS.Stream) := do
  let err ← IO.getStderr
  match ← IO.getEnv "LOG_FILE" with
  | none => return [err]
  | some path => return [err, .ofHandle (← IO.FS.Handle.mk path .append)]

/-- Shows records. -/
def emit (log : List IO.FS.Stream) (records : List Log.Record) : IO Unit := do
  for r in records do
    for stream in log do
      stream.putStrLn (asString ('[' :: r.level.name ++ "] ".toList ++ r.message))
      stream.flush

/-- Writes bytes to the standard output. -/
def emitBytes (bytes : Bytes) : IO Unit := do
  let out ← IO.getStdout
  out.write ⟨bytes.toArray⟩
  out.flush

/-- The place of a path in a tree. -/
def placeOf (p : Files.Path) : Files.Place :=
  p.properNames.foldl
    (fun place name => if name = Files.Path.above then place.dropLast else place ++ [name]) []

/-- Adds to a tree what stands under a path. -/
def observe (t : Files.Tree) (p : Files.Path) : IO Files.Tree := do
  let path := asString p
  match ← (IO.FS.readBinFile path).toBaseIO with
  | .ok content => return t.put (placeOf p) (.file content.toList)
  | .error _ =>
    match ← (IO.FS.realPath path).toBaseIO with
    | .ok real => if ← real.isDir then return t.put (placeOf p) .directory else return t
    | .error _ => return t

/-- Adds to a tree what stands under a path and under those above it. -/
def observeAll (t : Files.Tree) (p : Files.Path) : IO Files.Tree :=
  (p.parents.reverse ++ [p]).foldlM observe t

/-- The surroundings of the program. -/
def lookAround : IO Config.Surroundings := do
  return {
    besideProgram := ((← IO.appPath).withExtension "json").toString.toList
    home := (← IO.getEnv "HOME").map String.toList
    configHome := (← IO.getEnv "XDG_CONFIG_HOME").map String.toList }

/-- Goes on with a session while there is input, and shows what comes out of it. -/
partial def converse (log : List IO.FS.Stream) (verbosity : Log.Verbosity)
    (session : Console.Session) : IO Console.Ending := do
  let (written, trace, session) := session.drain
  emitBytes written
  emit log (Log.keep verbosity trace.records)
  let piece ← if session.ending.isSome then pure .empty else (← IO.getStdin).read 8192
  if piece.isEmpty then
    let outcome := (session.finish .over).close
    emitBytes outcome.output
    emit log (Log.keep verbosity outcome.trace.records)
    return outcome.ending
  else converse log verbosity (session.feed piece.toList)

/-- Finds the configuration and holds a session. -/
def hold (a : Arguments) : IO UInt32 := do
  let log ← openLog
  emit log (Log.keep a.firstVerbosity [.programStarted name version])
  let place ← lookAround
  let paths := match a.config with
    | some path => [path]
    | none => place.besideProgram :: place.userFile?.toList
  let files ← paths.foldlM observeAll {}
  let (config, records) := configure files place a
  emit log (Log.keep a.firstVerbosity records)
  let (verbosity, ending) ← match config with
    | .error e => pure (a.firstVerbosity, Console.Ending.failed (.config e))
    | .ok config =>
      let verbosity := a.lastVerbosity config
      match Console.Session.start? config none with
      | .error failure => pure (verbosity, .failed failure)
      | .ok session => pure (verbosity, ← converse log verbosity session)
  emit log (Log.keep verbosity (report ending))
  return (exitCode ending).toUInt32

/-- Does what the arguments ask for. -/
def serve (arguments : List Text) : IO UInt32 := do
  match Arguments.parse arguments with
  | .error _ =>
    IO.eprint (asString helpText)
    return 2
  | .ok .help =>
    IO.print (asString helpText)
    return 0
  | .ok .version =>
    IO.print (asString versionText)
    return 0
  | .ok (.run a) => hold a

end DeviceTwin.Program

/-- The program. -/
def main (arguments : List String) : IO UInt32 :=
  DeviceTwin.Program.serve (arguments.map String.toList)
