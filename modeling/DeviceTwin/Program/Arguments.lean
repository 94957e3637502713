import DeviceTwin.Files.Path
import DeviceTwin.Log

/-!
# Arguments of the program

The program takes a configuration file and a verbosity, each at most once, and can be asked for its
usage or its version.  The value of an option follows it as the next argument or, behind an equals
sign, in the same one.  A value in an argument of its own is looked at when the next option comes
or the arguments end; so an argument that is not known at all is refused before a bad value in
front of it.
-/

namespace DeviceTwin.Program

/-- What the program is to do. -/
structure Arguments where
  /-- The configuration file. -/
  config : Option Files.Path := none
  /-- Up to which level records are logged, whatever the configuration says. -/
  verbosity : Option Log.Verbosity := none
  deriving DecidableEq, Repr

/-- Why arguments are refused. -/
inductive UsageError where
  /-- An option has no value, or one that it does not take. -/
  | invalidValue
  /-- An option is given twice. -/
  | conflict
  /-- An argument is not known. -/
  | unknownArgument
  /-- A value is given where none is taken. -/
  | tooManyValues
  deriving DecidableEq, Repr

/-- What the program is asked for. -/
inductive Request where
  | run (arguments : Arguments)
  | help
  | version
  deriving DecidableEq, Repr

/-- The options that take a value. -/
inductive Setting where
  | config
  | verbosity
  deriving DecidableEq, Repr

/-- What the name of an option stands for. -/
inductive Switch where
  | set (setting : Setting)
  | ask (request : Request)
  deriving DecidableEq, Repr

/-- The option with a long name. -/
def Switch.ofName? (name : Text) : Option Switch :=
  if name = "config".toList then some (.set .config)
  else if name = "log-level".toList then some (.set .verbosity)
  else if name = "help".toList then some (.ask .help)
  else if name = "version".toList then some (.ask .version)
  else none

/-- What is asked for by a letter. -/
def Request.ofLetter? (c : Char) : Option Request :=
  if c = 'h' then some .help else if c = 'V' then some .version else none

/-- What an argument looks like. -/
inductive Word where
  /-- Two hyphens: no options follow. -/
  | noMoreOptions
  /-- A long name behind two hyphens, and what stands behind an equals sign. -/
  | long (name : Text) (value : Option Text)
  /-- Letters behind one hyphen; only the first of them counts. -/
  | letters (first : Char)
  /-- Anything else. -/
  | plain (text : Text)
  deriving DecidableEq, Repr

/-- How an argument looks. -/
def Word.of : Text → Word
  | ['-', '-'] => .noMoreOptions
  | '-' :: '-' :: name =>
    match Text.cutAt (· = '=') name with
    | some (name, value) => .long name (some value)
    | none => .long name none
  | '-' :: c :: _ => .letters c
  | t => .plain t

/-- What has been read of the arguments. -/
structure Reading where
  arguments : Arguments := {}
  /-- The option that was named last, and its value if it has come. -/
  pending : Option (Setting × Option Text) := none
  deriving DecidableEq, Repr

namespace Arguments

/-- Gives an option its value. -/
def assign (a : Arguments) (setting : Setting) (value : Text) : Except UsageError Arguments :=
  match setting with
  | .config =>
    if a.config.isSome then .error .conflict
    else if value = [] then .error .invalidValue
    else .ok { a with config := some value }
  | .verbosity =>
    if a.verbosity.isSome then .error .conflict
    else
      match Log.Verbosity.ofName? value with
      | none => .error .invalidValue
      | some v => .ok { a with verbosity := some v }

/-- Looks at the option that was named last. -/
def settle (r : Reading) : Except UsageError Arguments :=
  match r.pending with
  | none => .ok r.arguments
  | some (_, none) => .error .invalidValue
  | some (setting, some value) => r.arguments.assign setting value

/-- Reads the rest of the arguments. -/
def parseFrom (r : Reading) : List Text → Except UsageError Request
  | [] => (settle r).map .run
  | argument :: rest =>
    match Word.of argument with
    | .noMoreOptions => if rest = [] then (settle r).map .run else .error .unknownArgument
    | .long name value =>
      match Switch.ofName? name, value with
      | none, _ => .error .unknownArgument
      | some (.ask _), some _ => .error .tooManyValues
      | some (.ask request), none => (settle r).map fun _ => request
      | some (.set setting), none =>
        match settle r with
        | .error e => .error e
        | .ok arguments => parseFrom { arguments, pending := some (setting, none) } rest
      | some (.set setting), some value =>
        match settle r with
        | .error e => .error e
        | .ok arguments =>
          match arguments.assign setting value with
          | .error e => .error e
          | .ok arguments => parseFrom { arguments } rest
    | .letters c =>
      match Request.ofLetter? c with
      | none => .error .unknownArgument
      | some request => (settle r).map fun _ => request
    | .plain text =>
      match r.pending with
      | some (setting, none) => parseFrom { r with pending := some (setting, some text) } rest
      | _ => .error .unknownArgument

/-- Reads the arguments. -/
def parse (arguments : List Text) : Except UsageError Request := parseFrom {} arguments

end Arguments

end DeviceTwin.Program
