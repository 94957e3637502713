import DeviceTwin.Config.Basic
import DeviceTwin.Files.Fault
import DeviceTwin.Json.Fault

/-!
# Why there is no configuration

A configuration may be nowhere to be looked for, its file may be out of reach, and what the file
holds may be no text, not JSON of the right shape, or a configuration that cannot be used.
-/

namespace DeviceTwin.Config

/-- Why there is no configuration. -/
inductive Error where
  /-- There is no place to look for one. -/
  | noPath
  /-- The file is not a text. -/
  | notText (fault : Utf8.Fault)
  /-- The file cannot be read or written. -/
  | file (fault : Files.Fault)
  /-- The text is not the notation of a configuration. -/
  | json (error : Json.Error)
  /-- The configuration cannot be used. -/
  | bufferTooLarge (error : BufferTooLarge)
  deriving DecidableEq, Repr

namespace Error

/-- The words for an error. -/
def message : Error → Text
  | noPath =>
    "No explicit config path given and no per-user config directory available".toList
  | notText fault => "Failed to encode/decode config as utf-8: ".toList ++ fault.message
  | file fault => "Failed to read/write config file: ".toList ++ fault.message
  | json error => "Failed to parse/build config file: ".toList ++ error.message
  | bufferTooLarge error => error.message

/-- Whether there is simply no file. -/
def isFileNotFound (e : Error) : Bool := e = file .notFound

end Error

end DeviceTwin.Config
