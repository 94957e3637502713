import DeviceTwin.Text.Basic

/-!
# Unsigned numerals

A number is written in decimal without a sign and without leading zeros.  Reading is more liberal:
one plus sign may stand in front, and any number of leading zeros; the value has to stay below the
limit of its kind.  `parse_render` says that what is written is read back.
-/

namespace DeviceTwin.Numeral

/-- The decimal digits of a number, most significant first. -/
def render (n : Nat) : Text := Nat.toDigits 10 n

/-- The hexadecimal digits of a number in lower case, most significant first. -/
def renderHex (n : Nat) : Text := Nat.toDigits 16 n

/-- A text of at least one decimal digit and of nothing else. -/
def isDigits (t : Text) : Bool := !t.isEmpty && t.all Char.isDigit

/-- The text behind an optional plus sign. -/
def dropPlus : Text → Text
  | '+' :: rest => rest
  | t => t

/-- The number that a text denotes, if the text is a numeral and the number is below `limit`. -/
def parse (limit : Nat) (t : Text) : Option Nat :=
  let digits := dropPlus t
  if isDigits digits then
    let n := Nat.ofDigitChars 10 digits 0
    if n < limit then some n else none
  else none

/-! ## Reading back -/

theorem isDigit_of_mem_render {n : Nat} {c : Char} (h : c ∈ render n) : c.isDigit = true :=
  Nat.isDigit_of_mem_toDigits (by decide) (by decide) h

theorem render_ne_nil (n : Nat) : render n ≠ [] := Nat.toDigits_ne_nil

theorem isDigits_render (n : Nat) : isDigits (render n) = true := by
  simp only [isDigits, Bool.and_eq_true, Bool.not_eq_true', List.isEmpty_eq_false_iff,
    List.all_eq_true]
  exact ⟨render_ne_nil n, fun c hc => isDigit_of_mem_render hc⟩

theorem dropPlus_of_isDigits {t : Text} (h : isDigits t = true) : dropPlus t = t := by
  unfold dropPlus
  split
  · simp [isDigits] at h
  · rfl

theorem parse_render {limit n : Nat} (h : n < limit) : parse limit (render n) = some n := by
  have hvalue : Nat.ofDigitChars 10 (render n) 0 = n := Nat.ofDigitChars_ten_toDigits
  simp [parse, dropPlus_of_isDigits (isDigits_render n), isDigits_render, hvalue, h]

end DeviceTwin.Numeral
