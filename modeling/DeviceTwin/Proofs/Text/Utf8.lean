import DeviceTwin.Text.Utf8

/-!
# UTF-8 is read back

Decoding the bytes of a text gives the text (`decode_encode`).  The argument follows one character
through the reader: its lead byte opens a character of the right length, each continuation byte is
in the range that is expected, and the bits add up to the code point.

Nothing else is decoded (`decode_eq_ok_iff`): a text has one sequence of bytes.  The argument goes
the other way, from the bytes that the reader let through to the character that they encode.
-/

namespace DeviceTwin.Utf8

/-! ## Lead bytes -/

theorem lead_of_lt_two {b : Nat} (h : b < 0x80) : lead b = .single b := if_pos h

theorem lead_of_two {b : Nat} (h : 0xc2 ≤ b) (h' : b < 0xe0) :
    lead b = .opens { owed := 1, bits := b - 0xc0 } := by
  rw [lead, if_neg (by omega), if_neg (by omega), if_pos h']

/-- The lead bytes of three.  Overlong forms and surrogates are ruled out by the second byte. -/
theorem lead_of_three {b : Nat} (h : 0xe0 ≤ b) (h' : b < 0xf0) :
    lead b = .opens
      { owed := 2
        low := if b = 0xe0 then 0xa0 else 0x80
        high := if b = 0xed then 0x9f else 0xbf
        bits := b - 0xe0 } := by
  rw [lead, if_neg (by omega), if_neg (by omega), if_neg (by omega)]
  by_cases hfirst : b = 0xe0
  · simp [hfirst]
  · by_cases hsurrogate : b = 0xed
    · simp [hsurrogate]
    · simp [hfirst, hsurrogate, h']

/-- The lead bytes of four.  Overlong forms and values that are too great are ruled out by the
second byte. -/
theorem lead_of_four {b : Nat} (h : 0xf0 ≤ b) (h' : b < 0xf5) :
    lead b = .opens
      { owed := 3
        low := if b = 0xf0 then 0x90 else 0x80
        high := if b = 0xf4 then 0x8f else 0xbf
        bits := b - 0xf0 } := by
  have hne : b ≠ 0xe0 ∧ b ≠ 0xed := by omega
  rw [lead, if_neg (by omega), if_neg (by omega), if_neg (by omega), if_neg hne.1, if_neg hne.2,
    if_neg (by omega)]
  by_cases hfirst : b = 0xf0
  · simp [hfirst]
  · by_cases hlast : b = 0xf4
    · simp [hlast]
    · have hlt : b < 0xf4 := by omega
      simp [hfirst, hlast, hlt]

/-! ## Characters in bytes -/

section Read

variable {start : Nat} {rest : Bytes} {b₀ b₁ b₂ b₃ : UInt8}

theorem decodeFrom_last {p : Partial} (hlow : p.low ≤ b₁.toNat) (hhigh : b₁.toNat ≤ p.high)
    (howed : p.owed = 1) :
    decodeFrom start (some p) (b₁ :: rest) =
      (decodeFrom (start + p.seen + 1) none rest).map
        (Char.ofNat (p.bits * 64 + (b₁.toNat - 0x80)) :: ·) := by
  simp [decodeFrom, hlow, hhigh, howed]

theorem decodeFrom_more {p : Partial} (hlow : p.low ≤ b₁.toNat) (hhigh : b₁.toNat ≤ p.high)
    (howed : 1 < p.owed) :
    decodeFrom start (some p) (b₁ :: rest) =
      decodeFrom start
        (some { owed := p.owed - 1, bits := p.bits * 64 + (b₁.toNat - 0x80), seen := p.seen + 1 })
        rest := by
  simp [decodeFrom, hlow, hhigh, Nat.not_le.2 howed]

theorem decodeFrom_one (h₀ : b₀.toNat < 0x80) :
    decodeFrom start none (b₀ :: rest) =
      (decodeFrom (start + 1) none rest).map (Char.ofNat b₀.toNat :: ·) := by
  simp [decodeFrom, lead_of_lt_two h₀]

theorem decodeFrom_two (h₀ : 0xc2 ≤ b₀.toNat ∧ b₀.toNat < 0xe0)
    (h₁ : 0x80 ≤ b₁.toNat ∧ b₁.toNat ≤ 0xbf) :
    decodeFrom start none (b₀ :: b₁ :: rest) =
      (decodeFrom (start + 2) none rest).map
        (Char.ofNat ((b₀.toNat - 0xc0) * 64 + (b₁.toNat - 0x80)) :: ·) := by
  rw [decodeFrom, lead_of_two h₀.1 h₀.2]
  exact decodeFrom_last h₁.1 h₁.2 rfl

theorem decodeFrom_three (h₀ : 0xe0 ≤ b₀.toNat ∧ b₀.toNat < 0xf0)
    (h₁ : (if b₀.toNat = 0xe0 then 0xa0 else 0x80) ≤ b₁.toNat ∧
      b₁.toNat ≤ if b₀.toNat = 0xed then 0x9f else 0xbf)
    (h₂ : 0x80 ≤ b₂.toNat ∧ b₂.toNat ≤ 0xbf) :
    decodeFrom start none (b₀ :: b₁ :: b₂ :: rest) =
      (decodeFrom (start + 3) none rest).map
        (Char.ofNat (((b₀.toNat - 0xe0) * 64 + (b₁.toNat - 0x80)) * 64 + (b₂.toNat - 0x80)) ::
          ·) := by
  rw [decodeFrom, lead_of_three h₀.1 h₀.2]
  exact (decodeFrom_more h₁.1 h₁.2 (Nat.lt_succ_self 1)).trans (decodeFrom_last h₂.1 h₂.2 rfl)

theorem decodeFrom_four (h₀ : 0xf0 ≤ b₀.toNat ∧ b₀.toNat < 0xf5)
    (h₁ : (if b₀.toNat = 0xf0 then 0x90 else 0x80) ≤ b₁.toNat ∧
      b₁.toNat ≤ if b₀.toNat = 0xf4 then 0x8f else 0xbf)
    (h₂ : 0x80 ≤ b₂.toNat ∧ b₂.toNat ≤ 0xbf) (h₃ : 0x80 ≤ b₃.toNat ∧ b₃.toNat ≤ 0xbf) :
    decodeFrom start none (b₀ :: b₁ :: b₂ :: b₃ :: rest) =
      (decodeFrom (start + 4) none rest).map
        (Char.ofNat ((((b₀.toNat - 0xf0) * 64 + (b₁.toNat - 0x80)) * 64 + (b₂.toNat - 0x80)) *
          64 + (b₃.toNat - 0x80)) :: ·) := by
  rw [decodeFrom, lead_of_four h₀.1 h₀.2]
  refine (decodeFrom_more h₁.1 h₁.2 ?_).trans
    ((decodeFrom_more h₂.1 h₂.2 ?_).trans (decodeFrom_last h₃.1 h₃.2 rfl))
  · exact Nat.lt_succ_of_lt (Nat.lt_succ_self 1)
  · exact Nat.lt_succ_self 1

end Read

/-! ## Characters in texts -/

theorem utf8EncodeChar_def (c : Char) :
    String.utf8EncodeChar c =
      if c.toNat ≤ 0x7f then [.ofNat c.toNat]
      else if c.toNat ≤ 0x7ff then
        [.ofNat (c.toNat / 64 % 32 + 0xc0), .ofNat (c.toNat % 64 + 0x80)]
      else if c.toNat ≤ 0xffff then
        [.ofNat (c.toNat / 4096 % 16 + 0xe0), .ofNat (c.toNat / 64 % 64 + 0x80),
          .ofNat (c.toNat % 64 + 0x80)]
      else
        [.ofNat (c.toNat / 262144 % 8 + 0xf0), .ofNat (c.toNat / 4096 % 64 + 0x80),
          .ofNat (c.toNat / 64 % 64 + 0x80), .ofNat (c.toNat % 64 + 0x80)] := rfl

theorem toNat_byte {n : Nat} (h : n < 256) : (UInt8.ofNat n).toNat = n := by
  simp [Nat.mod_eq_of_lt h]

/-- A byte below 0x80 stands for the character with that number, and in no other one. -/
theorem toNat_of_mem_utf8EncodeChar {c : Char} {b : UInt8} (h : b ∈ String.utf8EncodeChar c)
    (hb : b.toNat < 0x80) : c.toNat = b.toNat := by
  have hbyte : ∀ n, 0x80 ≤ n → n < 256 → b ≠ UInt8.ofNat n := by
    rintro n hlow hhigh rfl
    rw [toNat_byte hhigh] at hb
    exact absurd hb (Nat.not_lt.2 hlow)
  rw [utf8EncodeChar_def] at h
  split at h
  · rw [List.mem_singleton.1 h, toNat_byte (by omega)]
  · split at h
    · simp only [List.mem_cons, List.not_mem_nil, or_false] at h
      rcases h with h | h <;> exact absurd h (hbyte _ (by omega) (by omega))
    · split at h
      · simp only [List.mem_cons, List.not_mem_nil, or_false] at h
        rcases h with h | h | h <;> exact absurd h (hbyte _ (by omega) (by omega))
      · simp only [List.mem_cons, List.not_mem_nil, or_false] at h
        rcases h with h | h | h | h <;> exact absurd h (hbyte _ (by omega) (by omega))

/-- A character is read back, whatever follows. -/
theorem decodeFrom_utf8EncodeChar (start : Nat) (c : Char) (rest : Bytes) :
    decodeFrom start none (String.utf8EncodeChar c ++ rest) =
      (decodeFrom (start + (String.utf8EncodeChar c).length) none rest).map (c :: ·) := by
  have hvalid : c.toNat < 0xd800 ∨ 0xdfff < c.toNat ∧ c.toNat < 0x110000 := c.valid
  have hc : ∀ n, n = c.toNat → Char.ofNat n = c := fun n hn => hn ▸ Char.ofNat_toNat c
  have hlast : ∀ n, (UInt8.ofNat (n % 64 + 0x80)).toNat = n % 64 + 0x80 := fun n =>
    toNat_byte (by omega)
  rw [utf8EncodeChar_def]
  by_cases h₁ : c.toNat ≤ 0x7f
  · have hfirst : (UInt8.ofNat c.toNat).toNat = c.toNat := toNat_byte (by omega)
    rw [if_pos h₁, List.singleton_append, decodeFrom_one (by omega), hc _ hfirst]
    rfl
  rw [if_neg h₁]
  by_cases h₂ : c.toNat ≤ 0x7ff
  · have hfirst : (UInt8.ofNat (c.toNat / 64 % 32 + 0xc0)).toNat = c.toNat / 64 % 32 + 0xc0 :=
      toNat_byte (by omega)
    rw [if_pos h₂, List.cons_append, List.singleton_append,
      decodeFrom_two (by omega) (by rw [hlast]; omega), hfirst, hlast, hc _ (by omega)]
    rfl
  rw [if_neg h₂]
  by_cases h₃ : c.toNat ≤ 0xffff
  · have hfirst : (UInt8.ofNat (c.toNat / 4096 % 16 + 0xe0)).toNat = c.toNat / 4096 % 16 + 0xe0 :=
      toNat_byte (by omega)
    rw [if_pos h₃]
    simp only [List.cons_append, List.nil_append]
    rw [decodeFrom_three (by omega) (by rw [hfirst, hlast]; constructor <;> split <;> omega)
      (by rw [hlast]; omega), hfirst, hlast, hlast, hc _ (by omega)]
    rfl
  · have hfirst : (UInt8.ofNat (c.toNat / 262144 % 8 + 0xf0)).toNat = c.toNat / 262144 % 8 + 0xf0 :=
      toNat_byte (by omega)
    rw [if_neg h₃]
    simp only [List.cons_append, List.nil_append]
    rw [decodeFrom_four (by omega) (by rw [hfirst, hlast]; constructor <;> split <;> omega)
      (by rw [hlast]; omega) (by rw [hlast]; omega), hfirst, hlast, hlast, hlast, hc _ (by omega)]
    rfl

theorem encode_append (t u : Text) : encode (t ++ u) = encode t ++ encode u :=
  List.flatMap_append

theorem encode_cons (c : Char) (t : Text) : encode (c :: t) = String.utf8EncodeChar c ++ encode t :=
  List.flatMap_cons

theorem decodeFrom_encode (start : Nat) (t : Text) : decodeFrom start none (encode t) = .ok t := by
  induction t generalizing start with
  | nil => rfl
  | cons c t ih =>
    rw [encode_cons, decodeFrom_utf8EncodeChar, ih]
    rfl

/-- The bytes of a text are read back as the text. -/
theorem decode_encode (t : Text) : decode (encode t) = .ok t := decodeFrom_encode 0 t

/-! ## Nothing else is read -/

theorem lead_of_invalid {b : Nat} (h : 0x80 ≤ b ∧ b < 0xc2 ∨ 0xf5 ≤ b) : lead b = .invalid := by
  unfold lead
  rcases h with h | h
  · rw [if_neg (by omega), if_pos h.2]
  · rw [if_neg (by omega), if_neg (by omega), if_neg (by omega), if_neg (by omega),
      if_neg (by omega), if_neg (by omega), if_neg (by omega), if_neg (by omega),
      if_neg (by omega)]

section Inversion

variable {start : Nat} {bytes : Bytes} {t : Text}

theorem exists_of_decodeFrom_last {p : Partial} (h : decodeFrom start (some p) bytes = .ok t)
    (howed : p.owed = 1) :
    ∃ b rest u, bytes = b :: rest ∧ (p.low ≤ b.toNat ∧ b.toNat ≤ p.high) ∧
      t = Char.ofNat (p.bits * 64 + (b.toNat - 0x80)) :: u ∧
      decodeFrom (start + p.seen + 1) none rest = .ok u := by
  cases bytes with
  | nil => cases h
  | cons b rest =>
    by_cases hrange : p.low ≤ b.toNat ∧ b.toNat ≤ p.high
    · rw [decodeFrom_last hrange.1 hrange.2 howed] at h
      cases hrest : decodeFrom (start + p.seen + 1) none rest with
      | error f => simp [hrest, Except.map] at h
      | ok u =>
        rw [hrest] at h
        exact ⟨b, rest, u, rfl, hrange, (Except.ok.inj h).symm, hrest⟩
    · simp [decodeFrom, hrange] at h

theorem exists_of_decodeFrom_more {p : Partial} (h : decodeFrom start (some p) bytes = .ok t)
    (howed : 1 < p.owed) :
    ∃ b rest, bytes = b :: rest ∧ (p.low ≤ b.toNat ∧ b.toNat ≤ p.high) ∧
      decodeFrom start
        (some { owed := p.owed - 1, bits := p.bits * 64 + (b.toNat - 0x80), seen := p.seen + 1 })
        rest = .ok t := by
  cases bytes with
  | nil => cases h
  | cons b rest =>
    by_cases hrange : p.low ≤ b.toNat ∧ b.toNat ≤ p.high
    · rw [decodeFrom_more hrange.1 hrange.2 howed] at h
      exact ⟨b, rest, rfl, hrange, h⟩
    · simp [decodeFrom, hrange] at h

end Inversion

section Encode

variable {b₀ b₁ b₂ b₃ : UInt8}

/-- The code point of a character that is given by a code point. -/
theorem toNat_ofNat {n : Nat} (h : n < 0xd800 ∨ 0xdfff < n ∧ n < 0x110000) :
    (Char.ofNat n).toNat = n := by
  have hvalid : n.isValidChar := h
  rw [Char.ofNat, dif_pos hvalid]
  rfl

theorem ofNat_eq_byte {n : Nat} {b : UInt8} (h : n = b.toNat) : UInt8.ofNat n = b := by
  rw [h, UInt8.ofNat_toNat]

theorem utf8EncodeChar_one (h₀ : b₀.toNat < 0x80) :
    String.utf8EncodeChar (Char.ofNat b₀.toNat) = [b₀] := by
  rw [utf8EncodeChar_def, toNat_ofNat (by omega), if_pos (by omega), UInt8.ofNat_toNat]

theorem utf8EncodeChar_two (h₀ : 0xc2 ≤ b₀.toNat ∧ b₀.toNat < 0xe0)
    (h₁ : 0x80 ≤ b₁.toNat ∧ b₁.toNat ≤ 0xbf) :
    String.utf8EncodeChar (Char.ofNat ((b₀.toNat - 0xc0) * 64 + (b₁.toNat - 0x80))) =
      [b₀, b₁] := by
  rw [utf8EncodeChar_def, toNat_ofNat (by omega), if_neg (by omega), if_pos (by omega),
    ofNat_eq_byte (b := b₀) (by omega), ofNat_eq_byte (b := b₁) (by omega)]

theorem utf8EncodeChar_three (h₀ : 0xe0 ≤ b₀.toNat ∧ b₀.toNat < 0xf0)
    (h₁ : (if b₀.toNat = 0xe0 then 0xa0 else 0x80) ≤ b₁.toNat ∧
      b₁.toNat ≤ if b₀.toNat = 0xed then 0x9f else 0xbf)
    (h₂ : 0x80 ≤ b₂.toNat ∧ b₂.toNat ≤ 0xbf) :
    String.utf8EncodeChar (Char.ofNat
        (((b₀.toNat - 0xe0) * 64 + (b₁.toNat - 0x80)) * 64 + (b₂.toNat - 0x80))) =
      [b₀, b₁, b₂] := by
  have hrange : 0x80 ≤ b₁.toNat ∧ b₁.toNat ≤ 0xbf ∧ (b₀.toNat = 0xe0 → 0xa0 ≤ b₁.toNat) ∧
      (b₀.toNat = 0xed → b₁.toNat ≤ 0x9f) := by
    split at h₁ <;> split at h₁ <;> omega
  rw [utf8EncodeChar_def, toNat_ofNat (by omega), if_neg (by omega), if_neg (by omega),
    if_pos (by omega), ofNat_eq_byte (b := b₀) (by omega), ofNat_eq_byte (b := b₁) (by omega),
    ofNat_eq_byte (b := b₂) (by omega)]

theorem utf8EncodeChar_four (h₀ : 0xf0 ≤ b₀.toNat ∧ b₀.toNat < 0xf5)
    (h₁ : (if b₀.toNat = 0xf0 then 0x90 else 0x80) ≤ b₁.toNat ∧
      b₁.toNat ≤ if b₀.toNat = 0xf4 then 0x8f else 0xbf)
    (h₂ : 0x80 ≤ b₂.toNat ∧ b₂.toNat ≤ 0xbf) (h₃ : 0x80 ≤ b₃.toNat ∧ b₃.toNat ≤ 0xbf) :
    String.utf8EncodeChar (Char.ofNat
        ((((b₀.toNat - 0xf0) * 64 + (b₁.toNat - 0x80)) * 64 + (b₂.toNat - 0x80)) * 64 +
          (b₃.toNat - 0x80))) =
      [b₀, b₁, b₂, b₃] := by
  have hrange : 0x80 ≤ b₁.toNat ∧ b₁.toNat ≤ 0xbf ∧ (b₀.toNat = 0xf0 → 0x90 ≤ b₁.toNat) ∧
      (b₀.toNat = 0xf4 → b₁.toNat ≤ 0x8f) := by
    split at h₁ <;> split at h₁ <;> omega
  rw [utf8EncodeChar_def, toNat_ofNat (by omega), if_neg (by omega), if_neg (by omega),
    if_neg (by omega), ofNat_eq_byte (b := b₀) (by omega), ofNat_eq_byte (b := b₁) (by omega),
    ofNat_eq_byte (b := b₂) (by omega), ofNat_eq_byte (b := b₃) (by omega)]

end Encode

/-- Bytes that are read start with the bytes of a character. -/
theorem exists_char_of_decodeFrom {start : Nat} {bytes : Bytes} {t : Text}
    (h : decodeFrom start none bytes = .ok t) :
    bytes = [] ∧ t = [] ∨ ∃ c rest u next, bytes = String.utf8EncodeChar c ++ rest ∧ t = c :: u ∧
      decodeFrom next none rest = .ok u := by
  cases bytes with
  | nil => exact Or.inl ⟨rfl, (Except.ok.inj h).symm⟩
  | cons b₀ rest =>
    refine Or.inr ?_
    rw [decodeFrom] at h
    by_cases h₁ : b₀.toNat < 0x80
    · rw [lead_of_lt_two h₁] at h
      cases hrest : decodeFrom (start + 1) none rest with
      | error f => simp [hrest, Except.map] at h
      | ok u =>
        rw [hrest] at h
        refine ⟨Char.ofNat b₀.toNat, rest, u, start + 1, ?_, (Except.ok.inj h).symm, hrest⟩
        rw [utf8EncodeChar_one h₁]
        rfl
    by_cases h₂ : b₀.toNat < 0xc2
    · rw [lead_of_invalid (by omega)] at h
      cases h
    by_cases h₃ : b₀.toNat < 0xe0
    · rw [lead_of_two (by omega) h₃] at h
      obtain ⟨b₁, rest, u, rfl, hb₁, rfl, hrest⟩ := exists_of_decodeFrom_last h rfl
      have hb₀ : 0xc2 ≤ b₀.toNat ∧ b₀.toNat < 0xe0 := by omega
      have hchar := utf8EncodeChar_two hb₀ hb₁
      exact ⟨_, rest, u, _, congrArg (· ++ rest) hchar.symm, rfl, hrest⟩
    by_cases h₄ : b₀.toNat < 0xf0
    · rw [lead_of_three (by omega) h₄] at h
      obtain ⟨b₁, rest, rfl, hb₁, h⟩ := exists_of_decodeFrom_more h (Nat.lt_succ_self 1)
      obtain ⟨b₂, rest, u, rfl, hb₂, rfl, hrest⟩ := exists_of_decodeFrom_last h rfl
      have hb₀ : 0xe0 ≤ b₀.toNat ∧ b₀.toNat < 0xf0 := by omega
      have hchar := utf8EncodeChar_three hb₀ hb₁ hb₂
      exact ⟨_, rest, u, _, congrArg (· ++ rest) hchar.symm, rfl, hrest⟩
    by_cases h₅ : b₀.toNat < 0xf5
    · have hthree : 1 < 3 := by decide
      rw [lead_of_four (by omega) h₅] at h
      obtain ⟨b₁, rest, rfl, hb₁, h⟩ := exists_of_decodeFrom_more h hthree
      obtain ⟨b₂, rest, rfl, hb₂, h⟩ := exists_of_decodeFrom_more h (Nat.lt_succ_self 1)
      obtain ⟨b₃, rest, u, rfl, hb₃, rfl, hrest⟩ := exists_of_decodeFrom_last h rfl
      have hb₀ : 0xf0 ≤ b₀.toNat ∧ b₀.toNat < 0xf5 := by omega
      have hchar := utf8EncodeChar_four hb₀ hb₁ hb₂ hb₃
      exact ⟨_, rest, u, _, congrArg (· ++ rest) hchar.symm, rfl, hrest⟩
    · rw [lead_of_invalid (by omega)] at h
      cases h

theorem encode_of_decodeFrom {start : Nat} {bytes : Bytes} {t : Text}
    (h : decodeFrom start none bytes = .ok t) : encode t = bytes := by
  induction t generalizing start bytes with
  | nil =>
    rcases exists_char_of_decodeFrom h with ⟨rfl, -⟩ | ⟨c, rest, u, next, -, ht, -⟩
    · rfl
    · cases ht
  | cons c t ih =>
    rcases exists_char_of_decodeFrom h with ⟨-, ht⟩ | ⟨c', rest, u, next, rfl, ht, hrest⟩
    · cases ht
    · cases ht
      rw [encode_cons, ih hrest]

/-- Bytes are read as a text exactly if they are the bytes of the text. -/
theorem decode_eq_ok_iff {bytes : Bytes} {t : Text} : decode bytes = .ok t ↔ bytes = encode t := by
  constructor
  · intro h
    exact (encode_of_decodeFrom h).symm
  · rintro rfl
    exact decode_encode t

theorem encode_ne_nil {t : Text} (h : t ≠ []) : encode t ≠ [] := by
  intro hnil
  have hdecode : decode [] = .ok t := decode_eq_ok_iff.2 hnil.symm
  exact h (Except.ok.inj hdecode).symm

end DeviceTwin.Utf8
