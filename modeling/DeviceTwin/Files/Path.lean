import DeviceTwin.Text.Utf8

/-!
# Paths

A path is a text in which slashes separate names.  Slashes next to each other count as one; a slash
in front makes the path absolute, one at the end says that a directory is meant.  The names `.` and
`..` stand for the directory itself and for the one above it.
-/

namespace DeviceTwin.Files

/-- A path. -/
abbrev Path := Text

namespace Path

/-- The name of the directory itself. -/
def here : Text := ".".toList

/-- The name of the directory above. -/
def above : Text := "..".toList

/-- Whether a name stands for a directory by its position. -/
def isDots (name : Text) : Bool := name = here || name = above

/-- The names of a path in order. -/
def names (p : Path) : List Text := (Text.pieces '/' p).filter (· ≠ [])

/-- The names of a path without those that lead nowhere. -/
def properNames (p : Path) : List Text := p.names.filter (· ≠ here)

/-- Whether the path starts at the root. -/
def isAbsolute (p : Path) : Bool := p.head? = some '/'

/-- Whether the path can only mean a directory. -/
def endsOpen (p : Path) : Bool := p.getLast? = some '/'

/-- The path of something inside the directory of a path; an absolute path stands for itself. -/
def inside (directory : Path) (p : Path) : Path :=
  if p.isAbsolute then p
  else if directory = [] || directory.endsOpen then directory ++ p
  else directory ++ '/' :: p

/-- The path with the given names, the last one first. -/
def ofReversed (absolute : Bool) (reversed : List Text) : Path :=
  let p := Text.join '/' reversed.reverse
  if absolute then '/' :: p else p

/-- The paths above one with the given names, the last one first; the nearest comes first. -/
def parentsOf (absolute : Bool) : List Text → List Path
  | [] => []
  | [_] => []
  | _ :: name :: up => ofReversed absolute (name :: up) :: parentsOf absolute (name :: up)

/-- The paths of the directories above a path, the nearest first, without the start of the path. -/
def parents (p : Path) : List Path := parentsOf p.isAbsolute p.properNames.reverse

/-- The longest name, in bytes. -/
def maxName : Nat := 255

/-- The longest path, in bytes. -/
def maxPath : Nat := 4095

end Path

end DeviceTwin.Files
