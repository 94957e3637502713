import DeviceTwin.Text.Quoted

/-!
# Quoted texts read back

What `quote` writes is read back by `read`, whatever follows the closing quote (`read_quote`).  The
one escape that takes an argument is that by a code point: its digits end at the brace, denote the
code point again, and are at most six.

Quotes hold nothing that leaves no mark on a line (`visible_quote`), so a quoted text never breaks
the line in which it stands.
-/

namespace DeviceTwin

/-! ## Hexadecimal digits -/

namespace Numeral

theorem exists_digitChar_of_mem_renderHex {n : Nat} {c : Char} (h : c ∈ renderHex n) :
    ∃ k < 16, c = Nat.digitChar k := by
  induction n using Nat.strongRecOn with
  | ind n ih =>
    rw [renderHex, Nat.toDigits_eq_if (by decide)] at h
    split at h
    · next hlt => exact ⟨n, hlt, List.mem_singleton.1 h⟩
    · next hge =>
      rcases List.mem_append.1 h with h | h
      · exact ih (n / 16) (Nat.div_lt_self (by omega) (by decide)) h
      · exact ⟨n % 16, Nat.mod_lt _ (by decide), List.mem_singleton.1 h⟩

end Numeral

namespace Text

namespace Quoted

theorem hexValue?_digitChar : ∀ k < 16, hexValue? (Nat.digitChar k) = some k := by
  decide

theorem hexNumber?_append (seen : Nat) (a b : Text) :
    hexNumber? seen (a ++ b) = (hexNumber? seen a).bind (hexNumber? · b) := by
  induction a generalizing seen with
  | nil => rfl
  | cons c a ih =>
    simp only [List.cons_append, hexNumber?]
    cases hexValue? c with
    | none => rfl
    | some d => exact ih _

theorem hexNumber?_renderHex (n : Nat) : hexNumber? 0 (Numeral.renderHex n) = some n := by
  induction n using Nat.strongRecOn with
  | ind n ih =>
    rw [Numeral.renderHex, Nat.toDigits_eq_if (by decide)]
    split
    · next hlt => simp [hexNumber?, hexValue?_digitChar n hlt]
    · next hge =>
      have hlead : hexNumber? 0 (Nat.toDigits 16 (n / 16)) = some (n / 16) :=
        ih (n / 16) (Nat.div_lt_self (by omega) (by decide))
      have hlast : hexValue? (Nat.digitChar (n % 16)) = some (n % 16) :=
        hexValue?_digitChar _ (Nat.mod_lt _ (by decide))
      rw [hexNumber?_append, hlead]
      simp [hexNumber?, hlast, Nat.div_add_mod']

/-- The digits of a code point denote its character. -/
theorem scalar?_renderHex (c : Char) : scalar? (Numeral.renderHex c.toNat) = some c := by
  have hsix : (Numeral.renderHex c.toNat).length ≤ 6 := by
    have hlt : c.toNat < 0x110000 := by
      rcases c.valid with h | ⟨-, h⟩
      · exact Nat.lt_trans h (by decide)
      · exact h
    exact (Nat.length_toDigits_le_iff (by decide) (by decide)).2 (Nat.lt_trans hlt (by decide))
  have hone : 1 ≤ (Numeral.renderHex c.toNat).length := Nat.length_toDigits_pos
  have hguard : (guard (1 ≤ (Numeral.renderHex c.toNat).length ∧
      (Numeral.renderHex c.toNat).length ≤ 6) : Option Unit) = some () := if_pos ⟨hone, hsix⟩
  have hvalid : c.toNat.isValidChar := c.valid
  rw [scalar?, hguard, hexNumber?_renderHex]
  exact dif_pos hvalid

/-! ## Escapes -/

/-- Digits are gathered up to the brace. -/
theorem readBody_code {digits : Text} (h : ∀ c ∈ digits, c ≠ '}' ∧ c ≠ '_') (seen rest : Text) :
    readBody (.code seen) (digits ++ '}' :: rest) =
      (scalar? (seen.reverse ++ digits)).bind fun c => push c (readBody .between rest) := by
  induction digits generalizing seen with
  | nil => simp [readBody]
  | cons c digits ih =>
    have hc : c ≠ '}' ∧ c ≠ '_' := h c (by simp)
    have hdigits : ∀ c ∈ digits, c ≠ '}' ∧ c ≠ '_' := fun d hd => h d (by simp [hd])
    simp [readBody, hc.1, hc.2, ih hdigits]

theorem readBody_codePoint (c : Char) (rest : Text) :
    readBody .between ("\\u\x7b".toList ++ Numeral.renderHex c.toNat ++ '}' :: rest) =
      push c (readBody .between rest) := by
  have hdigits : ∀ d ∈ Numeral.renderHex c.toNat, d ≠ '}' ∧ d ≠ '_' := by
    intro d hd
    obtain ⟨k, hk, rfl⟩ := Numeral.exists_digitChar_of_mem_renderHex hd
    exact ⟨Nat.digitChar_ne '}' (by decide), Nat.digitChar_ne '_' (by decide)⟩
  have hopen : readBody .between ("\\u\x7b".toList ++ Numeral.renderHex c.toNat ++ '}' :: rest) =
      readBody (.code []) (Numeral.renderHex c.toNat ++ '}' :: rest) := by
    simp [readBody]
  rw [hopen, readBody_code hdigits, List.reverse_nil, List.nil_append, scalar?_renderHex]
  rfl

/-- What is written for a character is read as that character. -/
theorem readBody_escape (c : Char) (rest : Text) :
    readBody .between (escape c ++ rest) = push c (readBody .between rest) := by
  unfold escape
  split
  · rfl
  · rfl
  · rfl
  · rfl
  · rfl
  · rfl
  · split
    · rw [List.append_assoc]
      exact readBody_codePoint c rest
    · simp [readBody]

theorem readBody_flatMap_escape (t rest : Text) :
    readBody .between (t.flatMap escape ++ '"' :: rest) = some (t, rest) := by
  induction t with
  | nil => rfl
  | cons c t ih =>
    rw [List.flatMap_cons, List.append_assoc, readBody_escape, ih]
    rfl

theorem read_quote (t rest : Text) : read (quote t ++ rest) = some (t, rest) := by
  simp only [quote, List.cons_append, List.append_assoc, read]
  exact readBody_flatMap_escape t rest

end Quoted

/-! ## What stands inside quotes -/

/-- A text all of whose characters leave a mark on a line. -/
def Visible (t : Text) : Prop := ∀ c ∈ t, isUnprintable c = false

theorem Visible.not_mem {t : Text} (h : Visible t) {c : Char} (hc : isUnprintable c = true) :
    c ∉ t := by
  intro hmem
  rw [h c hmem] at hc
  cases hc

theorem visible_append {a b : Text} : Visible (a ++ b) ↔ Visible a ∧ Visible b :=
  List.forall_mem_append

/-- The characters of ASCII that are no control characters. -/
def isPlain (c : Char) : Bool := 0x20 ≤ c.toNat && c.toNat < 0x7f

theorem isPlain_of_le {first last c : Char} (hfirst : 0x20 ≤ first.toNat)
    (hlast : last.toNat < 0x7f) (h : first.val ≤ c.val ∧ c.val ≤ last.val) :
    isPlain c = true := by
  have hle : first.toNat ≤ c.toNat := UInt32.le_iff_toNat_le.1 h.1
  have hge : c.toNat ≤ last.toNat := UInt32.le_iff_toNat_le.1 h.2
  simp only [isPlain, Bool.and_eq_true, decide_eq_true_eq]
  exact ⟨Nat.le_trans hfirst hle, Nat.lt_of_le_of_lt hge hlast⟩

theorem isUnprintable_of_isPlain {c : Char} (h : isPlain c = true) : isUnprintable c = false := by
  have hall : ∀ n < 0x7f, 0x20 ≤ n → unprintableRanges.has n = false := by decide
  simp only [isPlain, Bool.and_eq_true, decide_eq_true_eq] at h
  exact hall c.toNat h.2 h.1

theorem visible_of_isPlain {t : Text} (h : t.all isPlain = true) : Visible t :=
  fun c hc => isUnprintable_of_isPlain (List.all_eq_true.1 h c hc)

theorem visible_renderHex (n : Nat) : Visible (Numeral.renderHex n) := by
  have hdigit : ∀ k < 16, isPlain (Nat.digitChar k) = true := by decide
  apply visible_of_isPlain
  rw [List.all_eq_true]
  intro c hc
  obtain ⟨k, hk, rfl⟩ := Numeral.exists_digitChar_of_mem_renderHex hc
  exact hdigit k hk

theorem visible_escape (c : Char) : Visible (escape c) := by
  unfold escape
  split
  case h_7 =>
    split
    · have hopen : Visible "\\u\x7b".toList := visible_of_isPlain (by decide)
      have hclose : Visible ['}'] := visible_of_isPlain (by decide)
      exact visible_append.2 ⟨visible_append.2 ⟨hopen, visible_renderHex _⟩, hclose⟩
    · next hplain =>
      intro d hd
      obtain rfl := List.mem_singleton.1 hd
      simp only [Bool.or_eq_true, not_or] at hplain
      simpa using hplain.2
  all_goals exact visible_of_isPlain (by decide)

theorem visible_quote (t : Text) : Visible (quote t) := by
  have hquote : isUnprintable '"' = false := isUnprintable_of_isPlain (by decide)
  intro d hd
  simp only [quote, List.cons_append, List.mem_cons, List.mem_append, List.mem_flatMap,
    List.not_mem_nil, or_false] at hd
  rcases hd with rfl | ⟨c, -, hd⟩ | rfl
  · exact hquote
  · exact visible_escape c d hd
  · exact hquote

end Text

end DeviceTwin
