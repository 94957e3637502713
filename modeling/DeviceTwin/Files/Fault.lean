import DeviceTwin.Text.Utf8

/-!
# Why reading or writing fails

The faults of files and of streams of bytes, with their words.
-/

namespace DeviceTwin.Files

/-- Why something cannot be read or written. -/
inductive Fault where
  /-- There is nothing under the path. -/
  | notFound
  /-- There is something under the path already. -/
  | alreadyExists
  /-- Something on the way is a file. -/
  | notADirectory
  /-- What should be a file is a directory. -/
  | isADirectory
  /-- A name or the whole path is too long. -/
  | nameTooLong
  /-- The path holds the character that ends names. -/
  | nulInPath
  /-- The bytes are not a text. -/
  | notText (fault : Utf8.Fault)
  /-- No byte is taken any more. -/
  | writeZero
  /-- The other side has broken the connection off. -/
  | connectionReset
  deriving DecidableEq, Repr

/-- The words for a fault. -/
def Fault.message : Fault → Text
  | notFound => "No such file or directory (os error 2)".toList
  | alreadyExists => "File exists (os error 17)".toList
  | notADirectory => "Not a directory (os error 20)".toList
  | isADirectory => "Is a directory (os error 21)".toList
  | nameTooLong => "File name too long (os error 36)".toList
  | nulInPath => "file name contained an unexpected NUL byte".toList
  | notText fault => fault.message
  | writeZero => "write zero".toList
  | connectionReset => "connection reset".toList

end DeviceTwin.Files
