import DeviceTwin.Config.Error
import DeviceTwin.Config.Reader
import DeviceTwin.Files.Tree

/-!
# Configurations in files

An empty file stands for the defaults; any other file must hold the notation of a configuration
that can be used.  Saving makes the directories above the file.  If no file is named, the one next
to the executable is taken, or else the one in the configuration directory of the user.
-/

namespace DeviceTwin.Config

/-- What a file with the given bytes says. -/
def ofBytes (content : Bytes) : Except Error Config :=
  if content = [] then .ok {}
  else
    match Utf8.decode content with
    | .error f => .error (.notText f)
    | .ok text =>
      match parse text with
      | .error e => .error (.json e)
      | .ok config =>
        match config.validate with
        | .error e => .error (.bufferTooLarge e)
        | .ok () => .ok config

/-- The bytes of the file of a configuration. -/
def toBytes (c : Config) : Bytes := Utf8.encode c.render

/-- Reads the file under a path. -/
def read (t : Files.Tree) (path : Files.Path) : Except Error Config :=
  match t.read path with
  | .error f => .error (.file f)
  | .ok content => ofBytes content

/-- Reads the file under a path; if there is none, the defaults are taken. -/
def readOrDefault (t : Files.Tree) (path : Files.Path) :
    Except Error Config × List Log.Record :=
  match read t path with
  | .error e => if e.isFileNotFound then (.ok {}, [.configMissing]) else (.error e, [])
  | .ok config => (.ok config, [])

/-- Writes the file under a path. -/
def save (t : Files.Tree) (path : Files.Path) (c : Config) :
    Files.Tree × Except Error Unit × List Log.Record :=
  match t.makeParents path with
  | (t, .error f) => (t, .error (.file f), [.configSaving path])
  | (t, .ok ()) =>
    match t.write path c.toBytes with
    | .error f => (t, .error (.file f), [.configSaving path])
    | .ok t => (t, .ok (), [.configSaving path])

/-! ## Which file is taken -/

/-- What is known about the surroundings of the program. -/
structure Surroundings where
  /-- The file next to the executable. -/
  besideProgram : Files.Path
  /-- The home directory of the user. -/
  home : Option Text
  /-- The directory that was set for configurations. -/
  configHome : Option Text := none
  deriving DecidableEq, Repr

/-- The directory for configurations of the user: the one that was set, if its path is absolute,
or else the usual one in the home directory. -/
def Surroundings.configDirectory? (s : Surroundings) : Option Files.Path :=
  match s.configHome.filter Files.Path.isAbsolute with
  | some directory => some directory
  | none => (s.home.filter (· ≠ [])).map fun home => Files.Path.inside home ".config".toList

/-- The file in the configuration directory of the user. -/
def Surroundings.userFile? (s : Surroundings) : Option Files.Path :=
  s.configDirectory?.map fun directory =>
    Files.Path.inside (Files.Path.inside directory "device-mirror".toList)
      "device-mirror.json".toList

/-- The file that is taken. -/
def resolve (t : Files.Tree) (s : Surroundings) (explicit : Option Files.Path) :
    Except Error Files.Path × List Log.Record :=
  match explicit with
  | some path => (.ok path, [.configChosen path])
  | none =>
    if t.hasFile s.besideProgram then (.ok s.besideProgram, [.configChosen s.besideProgram])
    else
      match s.userFile? with
      | none => (.error .noPath, [.configNotBesideProgram s.besideProgram])
      | some path =>
        (.ok path, [.configNotBesideProgram s.besideProgram, .configChosen path])

end DeviceTwin.Config
