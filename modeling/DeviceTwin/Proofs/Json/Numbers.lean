import DeviceTwin.Json.Number
import DeviceTwin.Proofs.Text.Numeral

/-!
# JSON numbers

A number of JSON is a numeral without leading zeros, perhaps with a minus sign in front and with a
fraction and an exponent behind it (`IsNumber`).  A reader cannot tell where a number ends but by
what follows it: `Ends` holds in front of everything that does not go on with a number.

Numbers of any size are passed over (`skipNumber_of_isNumber`), and numerals of up to 64 bits are
read as the numbers that they are (`readNumber_render`).
-/

namespace DeviceTwin.Json

/-- Whether a character would go on with a number. -/
def continuesNumber (c : Char) : Bool := c.isDigit || c = '.' || c = 'e' || c = 'E'

/-- No number goes on with this text. -/
def Ends (t : Text) : Prop := ∀ c ∈ t.head?, continuesNumber c = false

/-- No run of digits goes on with this text. -/
def EndsDigits (t : Text) : Prop := ∀ c ∈ t.head?, c.isDigit = false

/-- A point with digits behind it, or nothing. -/
def IsFraction (t : Text) : Prop :=
  t = [] ∨ ∃ digits, Numeral.isDigits digits = true ∧ t = '.' :: digits

/-- A power of ten, or nothing. -/
def IsExponent (t : Text) : Prop :=
  t = [] ∨ ∃ mark ∈ ['e', 'E'], ∃ sign ∈ [[], ['+'], ['-']], ∃ digits,
    Numeral.isDigits digits = true ∧ t = mark :: (sign ++ digits)

/-- A number of any size and precision. -/
def IsNumber (t : Text) : Prop :=
  ∃ minus ∈ [[], ['-']], ∃ n fraction exponent, IsFraction fraction ∧ IsExponent exponent ∧
    t = minus ++ (Numeral.render n ++ (fraction ++ exponent))

theorem ne_of_isDigit {c d : Char} (h : c.isDigit = true) (hd : d.isDigit = false) : c ≠ d := by
  rintro rfl
  rw [h] at hd
  cases hd

/-! ## Where digits end -/

theorem Ends.endsDigits {t : Text} (h : Ends t) : EndsDigits t := by
  intro c hc
  have hcontinues := h c hc
  simp only [continuesNumber, Bool.or_eq_false_iff] at hcontinues
  exact hcontinues.1.1.1

theorem Ends.ne {t rest : Text} {c : Char} (h : Ends t) (ht : t = c :: rest) :
    c ≠ '.' ∧ c ≠ 'e' ∧ c ≠ 'E' := by
  have hcontinues := h c (by rw [ht]; rfl)
  simp only [continuesNumber, Bool.or_eq_false_iff, decide_eq_false_iff_not] at hcontinues
  exact ⟨hcontinues.1.1.2, hcontinues.1.2, hcontinues.2⟩

theorem EndsDigits.dropDigits_eq {t : Text} (h : EndsDigits t) : dropDigits t = t := by
  cases t with
  | nil => rfl
  | cons c t =>
    have hc : c.isDigit = false := h c rfl
    simp [dropDigits, hc]

theorem dropDigits_append {digits rest : Text} (h : ∀ c ∈ digits, c.isDigit = true)
    (hrest : EndsDigits rest) : dropDigits (digits ++ rest) = rest := by
  rw [dropDigits, List.dropWhile_append_of_pos h]
  exact hrest.dropDigits_eq

theorem endsDigits_exponent {t rest : Text} (h : IsExponent t) (hrest : Ends rest) :
    EndsDigits (t ++ rest) := by
  rcases h with rfl | ⟨mark, hmark, sign, -, digits, -, rfl⟩
  · exact hrest.endsDigits
  · rintro c hc
    obtain rfl : mark = c := by simpa using hc
    simp only [List.mem_cons, List.not_mem_nil, or_false] at hmark
    rcases hmark with rfl | rfl <;> rfl

theorem endsDigits_fraction {t rest : Text} (h : IsFraction t) (hrest : EndsDigits rest) :
    EndsDigits (t ++ rest) := by
  rcases h with rfl | ⟨digits, -, rfl⟩
  · exact hrest
  · rintro c hc
    obtain rfl : '.' = c := by simpa using hc
    rfl

/-! ## The first digit -/

/-- Only zero is written with a zero in front. -/
theorem exists_lead {n : Nat} (h : 0 < n) :
    ∃ c digits, Numeral.render n = c :: digits ∧ c ≠ '0' := by
  induction n using Nat.strongRecOn with
  | ind n ih =>
    rw [Numeral.render, Nat.toDigits_eq_if (by decide)]
    split
    · next hlt =>
      refine ⟨_, [], rfl, ?_⟩
      intro hzero
      have hvalue : (Nat.digitChar n).toNat = 48 := congrArg Char.toNat hzero
      rw [Nat.toNat_digitChar_of_lt_ten hlt] at hvalue
      omega
    · next hge =>
      obtain ⟨c, digits, hlead, hc⟩ := ih (n / 10) (by omega) (by omega)
      rw [Numeral.render] at hlead
      rw [hlead]
      exact ⟨c, _, rfl, hc⟩

theorem exists_first_render (n : Nat) :
    ∃ c digits, Numeral.render n = c :: digits ∧ c.isDigit = true := by
  obtain ⟨c, digits, hrender⟩ := List.exists_cons_of_ne_nil (Numeral.render_ne_nil n)
  have hmem : c ∈ Numeral.render n := hrender ▸ List.mem_cons_self
  exact ⟨c, digits, hrender, Numeral.isDigit_of_mem_render hmem⟩

/-- A numeral is a zero, or digits of which the first is none. -/
theorem render_cases (n : Nat) :
    n = 0 ∧ Numeral.render n = ['0'] ∨
      ∃ c digits, Numeral.render n = c :: digits ∧ c ≠ '0' ∧ c.isDigit = true ∧
        ∀ d ∈ digits, d.isDigit = true := by
  rcases Nat.eq_zero_or_pos n with rfl | hpos
  · exact Or.inl ⟨rfl, Nat.toDigits_zero 10⟩
  · obtain ⟨c, digits, hrender, hc⟩ := exists_lead hpos
    have hdigit : ∀ d ∈ c :: digits, d.isDigit = true := fun d hd =>
      Numeral.isDigit_of_mem_render (hrender ▸ hd)
    exact Or.inr ⟨c, digits, hrender, hc, hdigit c List.mem_cons_self,
      fun d hd => hdigit d (List.mem_cons_of_mem c hd)⟩

/-! ## Passing over numbers -/

theorem skipDigits_append {digits rest : Text} (h : Numeral.isDigits digits = true)
    (hrest : EndsDigits rest) : skipDigits (digits ++ rest) = .ok rest := by
  obtain ⟨hne, hall⟩ := Numeral.isDigits_iff.1 h
  obtain ⟨c, digits, rfl⟩ := List.exists_cons_of_ne_nil hne
  have hc : c.isDigit = true := hall c List.mem_cons_self
  have hdigits : ∀ d ∈ digits, d.isDigit = true := fun d hd => hall d (List.mem_cons_of_mem c hd)
  rw [List.cons_append, skipDigits, if_pos hc, dropDigits_append hdigits hrest]

theorem skipExponent_append {sign digits rest : Text} (hsign : sign ∈ [[], ['+'], ['-']])
    (h : Numeral.isDigits digits = true) (hrest : EndsDigits rest) :
    skipExponent (sign ++ digits ++ rest) = .ok rest := by
  simp only [List.mem_cons, List.not_mem_nil, or_false] at hsign
  rcases hsign with rfl | rfl | rfl
  · -- Digits do not begin with a sign.
    have hdigits := skipDigits_append h hrest
    rw [List.nil_append, skipExponent]
    · exact hdigits
    · rintro after hafter
      simp [hafter, skipDigits] at hdigits
    · rintro after hafter
      simp [hafter, skipDigits] at hdigits
  · exact skipDigits_append h hrest
  · exact skipDigits_append h hrest

theorem skipOptionalExponent_append {t rest : Text} (h : IsExponent t) (hrest : Ends rest) :
    skipOptionalExponent (t ++ rest) = .ok rest := by
  rcases h with rfl | ⟨mark, hmark, sign, hsign, digits, hdigits, rfl⟩
  · rw [List.nil_append, skipOptionalExponent]
    · exact fun after hafter => (hrest.ne hafter).2.1 rfl
    · exact fun after hafter => (hrest.ne hafter).2.2 rfl
  · have hexponent := skipExponent_append hsign hdigits hrest.endsDigits
    simp only [List.mem_cons, List.not_mem_nil, or_false] at hmark
    rcases hmark with rfl | rfl
    · exact hexponent
    · exact hexponent

theorem skipFraction_append {fraction exponent rest : Text} (hfraction : IsFraction fraction)
    (hexponent : IsExponent exponent) (hrest : Ends rest) :
    skipFraction (fraction ++ (exponent ++ rest)) = .ok rest := by
  rcases hfraction with rfl | ⟨digits, hdigits, rfl⟩
  · rw [List.nil_append, skipFraction]
    · exact skipOptionalExponent_append hexponent hrest
    · intro after hafter
      rcases hexponent with rfl | ⟨mark, hmark, sign, -, digits, -, rfl⟩
      · exact (hrest.ne hafter).1 rfl
      · simp only [List.cons_append, List.cons.injEq] at hafter
        simp [hafter.1] at hmark
  · obtain ⟨hne, hall⟩ := Numeral.isDigits_iff.1 hdigits
    have hdrop := dropDigits_append hall (endsDigits_exponent hexponent hrest)
    have hlength : (exponent ++ rest).length ≠ (digits ++ (exponent ++ rest)).length := by
      have := List.length_pos_iff.2 hne
      simp only [List.length_append]
      omega
    rw [List.cons_append]
    simp only [skipFraction]
    rw [hdrop, if_neg hlength]
    exact skipOptionalExponent_append hexponent hrest

theorem skipNumber_render (n : Nat) {rest : Text} (hrest : EndsDigits rest) :
    skipNumber (Numeral.render n ++ rest) = skipFraction rest := by
  rcases render_cases n with ⟨-, hzero⟩ | ⟨c, digits, hrender, hne, hc, hdigits⟩
  · rw [hzero]
    cases rest with
    | nil => rfl
    | cons d rest =>
      have hd : d.isDigit = false := hrest d rfl
      simp [skipNumber, hd]
  · rw [hrender, List.cons_append, skipNumber, if_pos hc, dropDigits_append hdigits hrest]
    exact fun h => hne h

/-- Whatever number there is, it is passed over. -/
theorem skipNumber_of_parts {n : Nat} {fraction exponent rest : Text}
    (hfraction : IsFraction fraction) (hexponent : IsExponent exponent) (hrest : Ends rest) :
    skipNumber (Numeral.render n ++ (fraction ++ (exponent ++ rest))) = .ok rest := by
  have hdigits := endsDigits_fraction hfraction (endsDigits_exponent hexponent hrest)
  rw [skipNumber_render n hdigits]
  exact skipFraction_append hfraction hexponent hrest

/-! ## Reading numerals -/

theorem le_ofDigitChars (digits : Text) (value : Nat) :
    value ≤ Nat.ofDigitChars 10 digits value := by
  induction digits generalizing value with
  | nil => exact Nat.le_refl value
  | cons c digits ih =>
    rw [Nat.ofDigitChars_cons]
    exact Nat.le_trans (by omega) (ih _)

/-- Digits are collected to the end as long as their value fits. -/
theorem collect_append {digits rest : Text} {value count : Nat}
    (h : ∀ c ∈ digits, c.isDigit = true) (hrest : EndsDigits rest)
    (hfits : Nat.ofDigitChars 10 digits value < wordLimit) :
    collect value count (digits ++ rest) =
      (Nat.ofDigitChars 10 digits value, count + digits.length, rest) := by
  induction digits generalizing value count with
  | nil =>
    cases rest with
    | nil => rfl
    | cons d rest =>
      have hd : d.isDigit = false := hrest d rfl
      simp [collect, hd]
  | cons c digits ih =>
    have hc : c.isDigit = true := h c List.mem_cons_self
    have hdigits : ∀ d ∈ digits, d.isDigit = true := fun d hd => h d (List.mem_cons_of_mem c hd)
    have hstep : 10 * value + (c.toNat - '0'.toNat) = value * 10 + digitValue c := by
      rw [digitValue, Nat.mul_comm]
    rw [Nat.ofDigitChars_cons, hstep] at hfits ⊢
    have hlt : value * 10 + digitValue c < wordLimit :=
      Nat.lt_of_le_of_lt (le_ofDigitChars digits _) hfits
    simp only [List.cons_append, collect, hc, hlt, decide_true, Bool.and_self, if_true]
    rw [ih hdigits hfits, List.length_cons]
    congr 2
    omega

theorem readTail_of_ends {rest : Text} (h : Ends rest) (n : Nat) :
    readTail false n rest = .ok (.whole n, rest) := by
  rw [readTail]
  · rfl
  · exact fun after hafter => (h.ne hafter).1 rfl
  · exact fun after hafter => (h.ne hafter).2.1 rfl
  · exact fun after hafter => (h.ne hafter).2.2 rfl

/-- A numeral of up to 64 bits is read as the number that it is. -/
theorem readNumber_render {n : Nat} (hn : n < wordLimit) {rest : Text} (h : Ends rest) :
    readNumber false (Numeral.render n ++ rest) = .ok (.whole n, rest) := by
  have htail := readTail_of_ends h n
  rcases render_cases n with ⟨rfl, hzero⟩ | ⟨c, digits, hrender, hne, hc, hdigits⟩
  · rw [hzero]
    cases rest with
    | nil => rfl
    | cons d rest =>
      have hd : d.isDigit = false := h.endsDigits d rfl
      simpa [readNumber, hd] using htail
  · have hvalue : Nat.ofDigitChars 10 digits (digitValue c) = n := by
      have hall : Nat.ofDigitChars 10 (c :: digits) 0 = n := by
        rw [← hrender]
        exact Nat.ofDigitChars_ten_toDigits
      rw [Nat.ofDigitChars_cons, Nat.mul_zero, Nat.zero_add] at hall
      exact hall
    have hcollect : collect (digitValue c) 1 (digits ++ rest) = (n, 1 + digits.length, rest) := by
      rw [collect_append hdigits h.endsDigits (hvalue ▸ hn), hvalue]
    rw [hrender, List.cons_append, readNumber, if_pos hc, hcollect]
    · cases rest with
      | nil => exact htail
      | cons d rest =>
        have hd : d.isDigit = false := h.endsDigits d rfl
        simpa [hd] using htail
    · exact fun h => hne h

end DeviceTwin.Json
