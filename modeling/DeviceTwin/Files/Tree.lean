import DeviceTwin.Files.Fault
import DeviceTwin.Files.Path

/-!
# Trees of files

A tree of directories and files, as far as the program can tell: files can be read and written,
directories can be made.  A path is followed name by name from the root, and the first name that
cannot be followed decides the fault.  Nothing is ever taken away.

A place in the tree is the list of the names that lead there from the root.
-/

namespace DeviceTwin.Files

/-- A place in a tree. -/
abbrev Place := List Text

/-- What stands at a place. -/
inductive Node where
  | file (content : Bytes)
  | directory
  deriving DecidableEq, Repr

/-- A tree of directories and files; the root is always there. -/
structure Tree where
  entries : List (Place × Node) := []
  deriving DecidableEq, Repr

namespace Tree

/-- What stands at a place. -/
def at? (t : Tree) (place : Place) : Option Node :=
  if place = [] then some .directory
  else (t.entries.find? (·.1 = place)).map (·.2)

/-- With something at a place. -/
def put (t : Tree) (place : Place) (node : Node) : Tree :=
  { entries := (place, node) :: t.entries.filter (·.1 ≠ place) }

/-- Follows one name from a place. -/
def enter (t : Tree) (place : Place) (name : Text) : Except Fault Place :=
  if t.at? place ≠ some .directory then .error .notADirectory
  else if name = Path.here then .ok place
  else if name = Path.above then .ok place.dropLast
  else if Path.maxName < Utf8.size name then .error .nameTooLong
  else if (t.at? (place ++ [name])).isSome then .ok (place ++ [name])
  else .error .notFound

/-- Follows names one after the other. -/
def walk (t : Tree) (place : Place) : List Text → Except Fault Place
  | [] => .ok place
  | name :: rest =>
    match t.enter place name with
    | .error f => .error f
    | .ok place => t.walk place rest

/-- Refuses a path that cannot be followed whatever is in the tree. -/
def checkPath (p : Path) : Except Fault Unit :=
  if '\x00' ∈ p then .error .nulInPath
  else if p = [] then .error .notFound
  else if Path.maxPath < Utf8.size p then .error .nameTooLong
  else .ok ()

/-- What stands under a path. -/
def find (t : Tree) (p : Path) : Except Fault Node :=
  match checkPath p with
  | .error f => .error f
  | .ok () =>
    match t.walk [] p.names with
    | .error f => .error f
    | .ok place =>
      match t.at? place with
      | none => .error .notFound
      | some .directory => .ok .directory
      | some (.file content) => if p.endsOpen then .error .notADirectory else .ok (.file content)

/-- Whether there is a file under a path. -/
def hasFile (t : Tree) (p : Path) : Bool :=
  match t.find p with
  | .ok (.file _) => true
  | _ => false

/-- Whether there is a directory under a path. -/
def hasDirectory (t : Tree) (p : Path) : Bool :=
  match t.find p with
  | .ok .directory => true
  | _ => false

/-- The content of the file under a path. -/
def read (t : Tree) (p : Path) : Except Fault Bytes :=
  match t.find p with
  | .error f => .error f
  | .ok .directory => .error .isADirectory
  | .ok (.file content) => .ok content

/-- The directory in which the last name of a path is to be made. -/
def parentPlace (t : Tree) (names : List Text) : Except Fault Place :=
  match t.walk [] names.dropLast with
  | .error f => .error f
  | .ok place => if t.at? place = some .directory then .ok place else .error .notADirectory

/-- Gives the file under a path a new content; if there is no file, it is made. -/
def write (t : Tree) (p : Path) (content : Bytes) : Except Fault Tree :=
  match checkPath p with
  | .error f => .error f
  | .ok () =>
    match p.names.getLast? with
    | none => .error .isADirectory
    | some name =>
      match t.parentPlace p.names with
      | .error f => .error f
      | .ok place =>
        if Path.isDots name || p.endsOpen then .error .isADirectory
        else if Path.maxName < Utf8.size name then .error .nameTooLong
        else if t.at? (place ++ [name]) = some .directory then .error .isADirectory
        else .ok (t.put (place ++ [name]) (.file content))

/-- Makes a directory in a directory that is there. -/
def makeDirectory (t : Tree) (p : Path) : Except Fault Tree :=
  match checkPath p with
  | .error f => .error f
  | .ok () =>
    match p.names.getLast? with
    | none => .error .alreadyExists
    | some name =>
      match t.parentPlace p.names with
      | .error f => .error f
      | .ok place =>
        if Path.isDots name then .error .alreadyExists
        else if Path.maxName < Utf8.size name then .error .nameTooLong
        else if (t.at? (place ++ [name])).isSome then .error .alreadyExists
        else .ok (t.put (place ++ [name]) .directory)

/-- Makes a directory, unless it is there. -/
def makeIfMissing (t : Tree) (p : Path) : Tree × Except Fault Unit :=
  match t.makeDirectory p with
  | .ok t => (t, .ok ())
  | .error f => if t.hasDirectory p then (t, .ok ()) else (t, .error f)

/-- Makes a directory and those above it, as far as they are not there; the paths come nearest
first.  What has been made stays, also if something further down cannot be made. -/
def makeAll : List Path → Tree → Tree × Except Fault Unit
  | [], t => (t, .ok ())
  | p :: up, t =>
    match t.makeDirectory p with
    | .error .notFound =>
      match makeAll up t with
      | (t, .error f) => (t, .error f)
      | (t, .ok ()) => t.makeIfMissing p
    | _ => t.makeIfMissing p

/-- Makes the directory under a path and those above it. -/
def makeDirectories (t : Tree) (p : Path) : Tree × Except Fault Unit := makeAll (p :: p.parents) t

/-- Makes the directories above a path. -/
def makeParents (t : Tree) (p : Path) : Tree × Except Fault Unit := makeAll p.parents t

/-! ## What has been put is there -/

theorem at?_put_self (t : Tree) {place : Place} (h : place ≠ []) (node : Node) :
    (t.put place node).at? place = some node := by
  simp [at?, put, h]

theorem at?_put_of_ne (t : Tree) {place other : Place} (h : other ≠ place) (node : Node) :
    (t.put place node).at? other = t.at? other := by
  unfold at? put
  split
  · rfl
  · congr 1
    rw [List.find?_cons_of_neg (by simpa using Ne.symm h)]
    rw [List.find?_filter]
    congr 1
    funext e
    by_cases he : e.1 = other
    · simp [he, h]
    · simp [he]

end Tree

end DeviceTwin.Files
