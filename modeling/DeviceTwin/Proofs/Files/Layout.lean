import DeviceTwin.Files.Tree

/-!
# What the contents of files do not decide

Two trees have the same layout if the same directories and files stand in both, whatever the files
hold.  Paths lead to the same places in them, so the same paths can be read in both, and where one
cannot be read the fault is the same (`SameLayout.read_eq_error_iff`).
-/

namespace DeviceTwin.Files

/-- Whether a node is a directory. -/
def Node.isDirectory : Node → Bool
  | file _ => false
  | directory => true

namespace Tree

/-- The same directories and files stand in both trees, whatever the files hold. -/
def SameLayout (t t' : Tree) : Prop :=
  ∀ place, (t.at? place).map Node.isDirectory = (t'.at? place).map Node.isDirectory

variable {t t' : Tree} {p : Path}

/-- A file can be put with another content at the same place. -/
theorem sameLayout_put_file (t : Tree) (place : Place) (content content' : Bytes) :
    (t.put place (.file content)).SameLayout (t.put place (.file content')) := by
  intro other
  by_cases hroot : other = []
  · simp only [at?, hroot, if_true]
  by_cases heq : other = place
  · subst heq
    rw [at?_put_self t hroot, at?_put_self t hroot]
    rfl
  · rw [at?_put_of_ne t heq, at?_put_of_ne t heq]

namespace SameLayout

theorem at?_eq_directory_iff (h : t.SameLayout t') (place : Place) :
    t.at? place = some .directory ↔ t'.at? place = some .directory := by
  have hdirectory : ∀ {n : Option Node},
      n = some .directory ↔ n.map Node.isDirectory = some true := by
    intro n
    match n with
    | none => simp
    | some (.file _) => simp [Node.isDirectory]
    | some .directory => simp [Node.isDirectory]
  rw [hdirectory, hdirectory, h place]

theorem isSome_at?_eq (h : t.SameLayout t') (place : Place) :
    (t.at? place).isSome = (t'.at? place).isSome := by
  have hplace := congrArg Option.isSome (h place)
  simpa using hplace

theorem enter_eq (h : t.SameLayout t') (place : Place) (name : Text) :
    t.enter place name = t'.enter place name := by
  simp only [enter, ne_eq, h.at?_eq_directory_iff, h.isSome_at?_eq]

theorem walk_eq (h : t.SameLayout t') (place : Place) (names : List Text) :
    t.walk place names = t'.walk place names := by
  induction names generalizing place with
  | nil => rfl
  | cons name names ih =>
    simp only [walk, h.enter_eq]
    cases t'.enter place name with
    | error f => rfl
    | ok next => exact ih next

/-- A path leads to a file in both, or to a directory in both, or the fault is the same. -/
theorem find_eq (h : t.SameLayout t') (p : Path) :
    (t.find p).map Node.isDirectory = (t'.find p).map Node.isDirectory := by
  simp only [find, h.walk_eq]
  cases checkPath p with
  | error f => rfl
  | ok _ =>
    cases t'.walk [] p.names with
    | error f => rfl
    | ok place =>
      have hplace := h place
      dsimp only
      revert hplace
      match t.at? place, t'.at? place with
      | none, none | some .directory, some .directory => exact fun _ => rfl
      | some (.file _), some (.file _) =>
        intro _
        dsimp only
        split <;> rfl
      | none, some _ | some _, none => simp
      | some (.file _), some .directory | some .directory, some (.file _) =>
        simp [Node.isDirectory]

theorem hasFile_eq (h : t.SameLayout t') (p : Path) : t.hasFile p = t'.hasFile p := by
  have hfile : ∀ t : Tree,
      t.hasFile p = true ↔ (t.find p).map Node.isDirectory = .ok false := by
    intro t
    simp only [hasFile]
    match t.find p with
    | .error f => simp [Except.map]
    | .ok (.file content) => simp [Except.map, Node.isDirectory]
    | .ok .directory => simp [Except.map, Node.isDirectory]
  rw [Bool.eq_iff_iff, hfile, hfile, h.find_eq]

theorem read_eq_error_iff (h : t.SameLayout t') (p : Path) (f : Fault) :
    t.read p = .error f ↔ t'.read p = .error f := by
  have hfault : ∀ t : Tree, t.read p = .error f ↔
      (t.find p).map Node.isDirectory = .error f ∨
        (t.find p).map Node.isDirectory = .ok true ∧ f = .isADirectory := by
    intro t
    simp only [read]
    match t.find p with
    | .error f => simp [Except.map]
    | .ok (.file content) => simp [Except.map, Node.isDirectory]
    | .ok .directory => simp [Except.map, Node.isDirectory, eq_comm]
  rw [hfault, hfault, h.find_eq]

end SameLayout

end Tree

end DeviceTwin.Files
