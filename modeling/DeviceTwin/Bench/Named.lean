import DeviceTwin.Text.Basic

/-!
# Named things

A list of things under names, each name at most once.  Putting a thing under a name replaces what
was there.
-/

namespace DeviceTwin

/-- Things under names. -/
structure Named (α : Type) where
  entries : List (Text × α) := []
  deriving DecidableEq, Repr

namespace Named

variable {α : Type}

/-- What stands under a name. -/
def get? (n : Named α) (name : Text) : Option α :=
  (n.entries.find? (·.1 = name)).map (·.2)

/-- Without what stands under a name. -/
def erase (n : Named α) (name : Text) : Named α :=
  { entries := n.entries.filter (·.1 != name) }

/-- With a thing under a name. -/
def put (n : Named α) (name : Text) (a : α) : Named α :=
  { entries := (n.erase name).entries ++ [(name, a)] }

/-- Whether one of the things satisfies `p`. -/
def any (n : Named α) (p : α → Bool) : Bool := n.entries.any (p ·.2)

@[simp] theorem get?_erase (n : Named α) (name other : Text) :
    (n.erase name).get? other = if name = other then none else n.get? other := by
  obtain ⟨entries⟩ := n
  simp only [get?, erase]
  induction entries with
  | nil => simp
  | cons e entries ih =>
    by_cases he : e.1 = name
    · have : (e.1 != name) = false := by simp [he]
      rw [List.filter_cons, this]
      by_cases h : name = other
      · simp [h]
      · simpa [he, h] using ih
    · have : (e.1 != name) = true := by simp [he]
      rw [List.filter_cons, this]
      by_cases ho : e.1 = other
      · simp [ho, show name ≠ other from fun h => he (ho.trans h.symm)]
      · simpa [ho] using ih

@[simp] theorem get?_put (n : Named α) (name : Text) (a : α) (other : Text) :
    (n.put name a).get? other = if name = other then some a else n.get? other := by
  have herase := get?_erase n name other
  simp only [get?] at herase
  by_cases h : name = other
  · subst h
    simp only [if_true, Option.map_eq_none_iff] at herase
    simp [get?, put, List.find?_append, herase]
  · simp only [h, if_false] at herase
    simp only [get?, put, List.find?_append, Option.map_or, herase]
    simp [h]

end Named

end DeviceTwin
