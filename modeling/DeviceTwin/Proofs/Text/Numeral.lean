import DeviceTwin.Text.Numeral
import Mathlib.Data.List.Induction

/-!
# What numerals denote

A numeral denotes a number if it is the number in decimal behind any number of zeros and at most
one plus sign (`Denotes`).  Reading accepts exactly the numerals of numbers below the limit
(`parse_eq_some_iff`).  The step that matters is `exists_zeros`: whatever the digits are, they are
zeros in front of the shortest digits of their value.
-/

namespace DeviceTwin.Numeral

/-- A text is a number in decimal, with zeros and a plus sign in front at will. -/
def Denotes (t : Text) (n : Nat) : Prop :=
  ∃ sign ∈ [[], ['+']], ∃ zeros, t = sign ++ List.replicate zeros '0' ++ render n

/-! ## Digits -/

theorem exists_digitChar_of_isDigit {c : Char} (h : c.isDigit = true) :
    ∃ k < 10, c = Nat.digitChar k := by
  simp only [Char.isDigit, Bool.and_eq_true, decide_eq_true_eq, ge_iff_le,
    UInt32.le_iff_toNat_le] at h
  have hlow : 48 ≤ c.toNat := h.1
  have hhigh : c.toNat ≤ 57 := h.2
  refine ⟨c.toNat - 48, by omega, ?_⟩
  rw [← Char.toNat_inj, Nat.toNat_digitChar_of_lt_ten (by omega)]
  omega

theorem isDigits_iff {t : Text} : isDigits t = true ↔ t ≠ [] ∧ ∀ c ∈ t, c.isDigit = true := by
  simp [isDigits]

/-- Digits are zeros in front of the digits of their value. -/
theorem exists_zeros {t : Text} (h : isDigits t = true) :
    ∃ zeros, t = List.replicate zeros '0' ++ render (Nat.ofDigitChars 10 t 0) := by
  induction t using List.reverseRecOn with
  | nil => simp [isDigits] at h
  | append_singleton t c ih =>
    obtain ⟨-, hall⟩ := isDigits_iff.1 h
    obtain ⟨k, hk, rfl⟩ := exists_digitChar_of_isDigit (hall c (by simp))
    have hlast : Nat.toDigits 10 k = [k.digitChar] := Nat.toDigits_of_lt_base hk
    have hvalue : Nat.ofDigitChars 10 (t ++ [k.digitChar]) 0 =
        10 * Nat.ofDigitChars 10 t 0 + k := by
      rw [Nat.ofDigitChars_append, Nat.ofDigitChars_cons_digitChar_of_lt_ten hk,
        Nat.ofDigitChars_nil]
    rw [hvalue]
    by_cases hnil : t = []
    · subst hnil
      refine ⟨0, ?_⟩
      simp [render, hlast]
    obtain ⟨zeros, ht⟩ := ih (isDigits_iff.2 ⟨hnil, fun d hd => hall d (by simp [hd])⟩)
    generalize Nat.ofDigitChars 10 t 0 = value at ht
    rcases Nat.eq_zero_or_pos value with rfl | hpos
    -- The digits so far are zeros, and the last of them is one that need not be written.
    · refine ⟨zeros + 1, ?_⟩
      rw [ht, Nat.mul_zero, Nat.zero_add, render, render, hlast, Nat.toDigits_zero,
        List.replicate_succ']
    · refine ⟨zeros, ?_⟩
      rw [render, ← Nat.toDigits_append_toDigits (by decide) hpos hk, hlast, ← List.append_assoc]
      exact congrArg (· ++ [k.digitChar]) ht

/-- Zeros in front change nothing. -/
theorem ofDigitChars_zeros (zeros n : Nat) :
    Nat.ofDigitChars 10 (List.replicate zeros '0' ++ render n) 0 = n := by
  rw [Nat.ofDigitChars_append, Nat.ofDigitChars_replicate_zero, Nat.mul_zero]
  exact Nat.ofDigitChars_ten_toDigits

theorem isDigits_zeros (zeros n : Nat) :
    isDigits (List.replicate zeros '0' ++ render n) = true := by
  rw [isDigits_iff]
  constructor
  · simp [render_ne_nil]
  · intro c hc
    rcases List.mem_append.1 hc with hc | hc
    · rw [List.eq_of_mem_replicate hc]
      rfl
    · exact isDigit_of_mem_render hc

/-! ## Reading -/

theorem exists_sign (t : Text) : ∃ sign ∈ [[], ['+']], t = sign ++ dropPlus t := by
  unfold dropPlus
  split
  · next rest => exact ⟨['+'], by simp, rfl⟩
  · exact ⟨[], by simp, rfl⟩

theorem dropPlus_sign {sign : Text} (h : sign ∈ [[], ['+']]) {digits : Text}
    (hdigits : isDigits digits = true) : dropPlus (sign ++ digits) = digits := by
  simp only [List.mem_cons, List.not_mem_nil, or_false] at h
  rcases h with rfl | rfl
  · exact dropPlus_of_isDigits hdigits
  · rfl

/-- Reading accepts the numerals of the numbers below the limit, and nothing else. -/
theorem parse_eq_some_iff {limit n : Nat} {t : Text} :
    parse limit t = some n ↔ n < limit ∧ Denotes t n := by
  constructor
  · intro h
    obtain ⟨sign, hsign, ht⟩ := exists_sign t
    simp only [parse] at h
    split at h
    · next hdigits =>
      split at h
      · next hlt =>
        obtain ⟨zeros, hzeros⟩ := exists_zeros hdigits
        rw [Option.some.inj h] at hlt hzeros
        refine ⟨hlt, sign, hsign, zeros, ?_⟩
        rw [List.append_assoc, ← hzeros]
        exact ht
      · cases h
    · cases h
  · rintro ⟨hlt, sign, hsign, zeros, rfl⟩
    have hdigits := isDigits_zeros zeros n
    rw [List.append_assoc, parse, dropPlus_sign hsign hdigits]
    simp only [hdigits, if_true, ofDigitChars_zeros, hlt]

theorem parse_eq_none_iff {limit : Nat} {t : Text} :
    parse limit t = none ↔ ¬ ∃ n < limit, Denotes t n := by
  rw [Option.eq_none_iff_forall_ne_some]
  simp only [ne_eq, parse_eq_some_iff, not_exists]

theorem isDigit_of_denotes {t : Text} {n : Nat} (h : Denotes t n) {c : Char} (hc : c ∈ t) :
    c = '+' ∨ c.isDigit = true := by
  obtain ⟨sign, hsign, zeros, rfl⟩ := h
  rw [List.append_assoc, List.mem_append] at hc
  rcases hc with hc | hc
  · simp only [List.mem_cons, List.not_mem_nil, or_false] at hsign
    rcases hsign with rfl | rfl
    · cases hc
    · exact Or.inl (List.mem_singleton.1 hc)
  · exact Or.inr ((isDigits_iff.1 (isDigits_zeros zeros n)).2 c hc)

end DeviceTwin.Numeral
