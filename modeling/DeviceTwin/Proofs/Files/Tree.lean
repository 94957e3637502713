import DeviceTwin.Files.Tree
import Mathlib.Data.List.Basic

/-!
# What is written is there to be read

After a file has been written under a path, reading under the path gives its content
(`read_of_write`).  Writing changes one place, and that place is no directory.  Names are only
entered from directories, so whatever could be followed before can be followed after
(`walk_put`).
-/

namespace DeviceTwin.Files.Tree

variable {t : Tree} {target : Place} {node : Node}

/-- Putting something where no directory is leaves every directory as it was. -/
theorem at?_put_directory {place : Place} (htarget : t.at? target ≠ some .directory)
    (h : t.at? place = some .directory) : (t.put target node).at? place = some .directory := by
  have hne : place ≠ target := by
    rintro rfl
    exact htarget h
  rw [at?_put_of_ne t hne, h]

theorem isSome_at?_put {place : Place} (htarget : target ≠ []) (h : (t.at? place).isSome = true) :
    ((t.put target node).at? place).isSome = true := by
  by_cases hplace : place = target
  · rw [hplace, at?_put_self t htarget]
    rfl
  · rwa [at?_put_of_ne t hplace]

theorem enter_put {place next : Place} {name : Text} (hnil : target ≠ [])
    (htarget : t.at? target ≠ some .directory) (h : t.enter place name = .ok next) :
    (t.put target node).enter place name = .ok next := by
  by_cases hdirectory : t.at? place = some .directory
  · have hafter : (t.put target node).at? place = some .directory :=
      at?_put_directory htarget hdirectory
    simp only [enter, hdirectory, hafter, ne_eq, not_true_eq_false, if_false] at h ⊢
    split at h
    · next hhere => rwa [if_pos hhere]
    · next hhere =>
      rw [if_neg hhere]
      split at h
      · next habove => rwa [if_pos habove]
      · next habove =>
        rw [if_neg habove]
        split at h
        · cases h
        · next hlong =>
          rw [if_neg hlong]
          split at h
          · next hthere => rwa [if_pos (isSome_at?_put hnil hthere)]
          · cases h
  · simp [enter, hdirectory] at h

/-- Names that could be followed still can be. -/
theorem walk_put {place next : Place} {names : List Text} (hnil : target ≠ [])
    (htarget : t.at? target ≠ some .directory) (h : t.walk place names = .ok next) :
    (t.put target node).walk place names = .ok next := by
  induction names generalizing place with
  | nil => exact h
  | cons name names ih =>
    simp only [walk] at h ⊢
    split at h
    · cases h
    · next middle henter =>
      rw [enter_put hnil htarget henter]
      exact ih h

theorem walk_append {place middle : Place} {names : List Text} (h : t.walk place names = .ok middle)
    (name : Text) : t.walk place (names ++ [name]) = t.enter middle name := by
  induction names generalizing place with
  | nil =>
    obtain rfl : place = middle := Except.ok.inj h
    simp only [List.nil_append, walk]
    cases t.enter place name with
    | error f => rfl
    | ok next => rfl
  | cons first names ih =>
    simp only [List.cons_append, walk] at h ⊢
    split at h
    · cases h
    · exact ih h

/-- What has happened when a file has been written: it was put into a directory that is there, under
a name that can be had. -/
structure Written (t : Tree) (p : Path) (content : Bytes) (place : Place) (name : Text)
    (t' : Tree) : Prop where
  checked : checkPath p = .ok ()
  names : p.names.dropLast ++ [name] = p.names
  walked : t.walk [] p.names.dropLast = .ok place
  directory : t.at? place = some .directory
  proper : Path.isDots name = false
  closed : p.endsOpen = false
  short : ¬ Path.maxName < Utf8.size name
  free : t.at? (place ++ [name]) ≠ some .directory
  put : t' = t.put (place ++ [name]) (.file content)

theorem parentPlace_eq_ok {names : List Text} {place : Place}
    (h : t.parentPlace names = .ok place) :
    t.walk [] names.dropLast = .ok place ∧ t.at? place = some .directory := by
  unfold parentPlace at h
  split at h
  · cases h
  · next place' hwalk =>
    split at h
    · next hdirectory =>
      cases h
      exact ⟨hwalk, hdirectory⟩
    · cases h

theorem exists_written {t' : Tree} {p : Path} {content : Bytes} (h : t.write p content = .ok t') :
    ∃ place name, Written t p content place name t' := by
  unfold write at h
  split at h
  · cases h
  · next hchecked =>
    split at h
    · cases h
    · next name hname =>
      split at h
      · cases h
      · next place hplace =>
        obtain ⟨hwalked, hdirectory⟩ := parentPlace_eq_ok hplace
        split at h
        · cases h
        · next hplain =>
          simp only [Bool.or_eq_true, not_or, Bool.not_eq_true] at hplain
          split at h
          · cases h
          · next hshort =>
            split at h
            · cases h
            · next hfree =>
              have hnames : p.names.dropLast ++ [name] = p.names :=
                List.dropLast_append_getLast? name hname
              exact ⟨place, name, hchecked, hnames, hwalked, hdirectory, hplain.1, hplain.2,
                hshort, hfree, (Except.ok.inj h).symm⟩

theorem read_of_write {t' : Tree} {p : Path} {content : Bytes} (h : t.write p content = .ok t') :
    t'.read p = .ok content := by
  obtain ⟨place, name, hw⟩ := exists_written h
  have hnil : place ++ [name] ≠ [] := by simp
  have hfile : t'.at? (place ++ [name]) = some (.file content) := by
    rw [hw.put, at?_put_self t hnil]
  have hdirectory : t'.at? place = some .directory := by
    rw [hw.put]
    exact at?_put_directory hw.free hw.directory
  have hparent : t'.walk [] p.names.dropLast = .ok place := by
    rw [hw.put]
    exact walk_put hnil hw.free hw.walked
  have henter : t'.enter place name = .ok (place ++ [name]) := by
    have hproper := hw.proper
    simp only [Path.isDots, Bool.or_eq_false_iff, decide_eq_false_iff_not] at hproper
    simp [enter, hdirectory, hproper.1, hproper.2, hw.short, hfile]
  have hwalk : t'.walk [] p.names = .ok (place ++ [name]) := by
    rw [← hw.names, walk_append hparent, henter]
  have hfind : t'.find p = .ok (.file content) := by
    simp [find, hw.checked, hwalk, hfile, hw.closed]
  simp only [read, hfind]

end DeviceTwin.Files.Tree
