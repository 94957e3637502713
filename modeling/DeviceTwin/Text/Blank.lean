import DeviceTwin.Text.Basic

/-!
# White space

The blank characters are the twenty-five code points of the Unicode property White_Space.
`trim` takes them away at both ends of a text; what is left starts and ends with a character that
is not blank, or is empty.
-/

namespace DeviceTwin.Text

/-- The code points of the Unicode property White_Space. -/
def isBlank (c : Char) : Bool :=
  let n := c.toNat
  (0x09 ≤ n && n ≤ 0x0d) || n = 0x20 || n = 0x85 || n = 0xa0 || n = 0x1680 ||
    (0x2000 ≤ n && n ≤ 0x200a) || n = 0x2028 || n = 0x2029 || n = 0x202f || n = 0x205f ||
    n = 0x3000

/-- The text without its leading blanks. -/
def trimStart (t : Text) : Text := t.dropWhile isBlank

/-- The text without its trailing blanks. -/
def trimEnd (t : Text) : Text := (t.reverse.dropWhile isBlank).reverse

/-- The text without the blanks at its two ends. -/
def trim (t : Text) : Text := trimEnd (trimStart t)

/-- A text that neither starts nor ends with a blank. -/
def IsTrimmed (t : Text) : Prop :=
  (∀ c ∈ t.head?, isBlank c = false) ∧ ∀ c ∈ t.getLast?, isBlank c = false

instance (t : Text) : Decidable (IsTrimmed t) :=
  inferInstanceAs (Decidable ((∀ c ∈ t.head?, isBlank c = false) ∧
    ∀ c ∈ t.getLast?, isBlank c = false))

/-! ## What trimming leaves -/

theorem head?_dropWhile_of_not {p : Char → Bool} {t : Text} {c : Char}
    (h : (t.dropWhile p).head? = some c) : p c = false := by
  induction t with
  | nil => simp at h
  | cons x t ih =>
    by_cases hx : p x
    · exact ih (by simpa [List.dropWhile, hx] using h)
    · have : x = c := by simpa [List.dropWhile, hx] using h
      simpa [this] using hx

theorem trimStart_eq_of_head? {t : Text} (h : ∀ c ∈ t.head?, isBlank c = false) :
    trimStart t = t := by
  cases t with
  | nil => rfl
  | cons c t => simp [trimStart, List.dropWhile, h c (by simp)]

theorem trimEnd_eq_of_getLast? {t : Text} (h : ∀ c ∈ t.getLast?, isBlank c = false) :
    trimEnd t = t := by
  have := trimStart_eq_of_head? (t := t.reverse) (by simpa using h)
  simpa [trimEnd, trimStart] using congrArg List.reverse this

theorem trim_eq_of_isTrimmed {t : Text} (h : IsTrimmed t) : trim t = t := by
  rw [trim, trimStart_eq_of_head? h.1, trimEnd_eq_of_getLast? h.2]

end DeviceTwin.Text
