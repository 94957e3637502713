import DeviceTwin.Json.Skip
import DeviceTwin.Proofs.Text.Quoted

/-!
# JSON strings

What JSON lets stand between quotation marks is given here by characters: `Spells` holds the ways
in which one character may be written, and `Denotes` lines them up to a text.  Whatever the
spelling, the reader finds the text (`readString_of_denotes`), and what `escape` writes is one of
the spellings (`denotes_escape`).

Strings that are passed over are looked at by their form only.  `IsPiece` and `IsBody` are that
form; a number behind `\u` need not be that of a character there, so half a surrogate pair may
stand alone.
-/

namespace DeviceTwin.Json

/-- The letters that may follow a backslash, and what they stand for. -/
def letters : List (Char × Char) :=
  [('"', '"'), ('\\', '\\'), ('/', '/'), ('b', '\x08'), ('f', '\x0c'), ('n', '\n'), ('r', '\r'),
    ('t', '\t')]

/-- Whether a character may stand for itself in a string. -/
def IsPlain (c : Char) : Prop := 0x20 ≤ c.toNat ∧ c ≠ '"' ∧ c ≠ '\\'

/-- The spellings of a character. -/
inductive Spells : Text → Char → Prop where
  | plain {c : Char} (h : IsPlain c) : Spells [c] c
  | letter {e c : Char} (h : (e, c) ∈ letters) : Spells ['\\', e] c
  | unit {x₁ x₂ x₃ x₄ c : Char} (h : hexUnit? x₁ x₂ x₃ x₄ = some c.toNat) :
    Spells ['\\', 'u', x₁, x₂, x₃, x₄] c
  /-- A character outside the first plane is split in two halves of ten bits. -/
  | pair {x₁ x₂ x₃ x₄ y₁ y₂ y₃ y₄ c : Char} (hc : 0x10000 ≤ c.toNat)
    (hx : hexUnit? x₁ x₂ x₃ x₄ = some (0xd800 + (c.toNat - 0x10000) / 0x400))
    (hy : hexUnit? y₁ y₂ y₃ y₄ = some (0xdc00 + (c.toNat - 0x10000) % 0x400)) :
    Spells ['\\', 'u', x₁, x₂, x₃, x₄, '\\', 'u', y₁, y₂, y₃, y₄] c

/-- What stands between the quotation marks of a string that denotes a text. -/
inductive Denotes : Text → Text → Prop where
  | nil : Denotes [] []
  | cons {p s t : Text} {c : Char} : Spells p c → Denotes s t → Denotes (p ++ s) (c :: t)

/-- A string that denotes a text. -/
def IsString (t s : Text) : Prop := ∃ body, Denotes body t ∧ s = '"' :: body ++ ['"']

/-- What may stand in a string at one go, by its form. -/
inductive IsPiece : Text → Prop where
  | plain {c : Char} (h : IsPlain c) : IsPiece [c]
  | letter {e : Char} (h : e ∈ letters.map Prod.fst) : IsPiece ['\\', e]
  | unit {x₁ x₂ x₃ x₄ : Char} {n : Nat} (h : hexUnit? x₁ x₂ x₃ x₄ = some n) :
    IsPiece ['\\', 'u', x₁, x₂, x₃, x₄]

/-- What may stand between quotation marks, by its form. -/
inductive IsBody : Text → Prop where
  | nil : IsBody []
  | cons {p s : Text} : IsPiece p → IsBody s → IsBody (p ++ s)

/-! ## Reading a spelling -/

theorem readHex_of_hexUnit? {x₁ x₂ x₃ x₄ : Char} {n : Nat} (h : hexUnit? x₁ x₂ x₃ x₄ = some n)
    (rest : Text) : readHex (x₁ :: x₂ :: x₃ :: x₄ :: rest) = .ok (n, rest) := by
  simp only [readHex, h]

theorem readUnit_of_hexUnit? {x₁ x₂ x₃ x₄ c : Char} (h : hexUnit? x₁ x₂ x₃ x₄ = some c.toNat)
    (rest : Text) : readUnit (x₁ :: x₂ :: x₃ :: x₄ :: rest) = .ok (c, rest) := by
  have hvalid : c.toNat < 0xd800 ∨ 0xdfff < c.toNat ∧ c.toNat < 0x110000 := c.valid
  have htrailing : isTrailingSurrogate c.toNat = false := by
    simp only [isTrailingSurrogate, Bool.and_eq_false_iff, decide_eq_false_iff_not]
    omega
  have hleading : isLeadingSurrogate c.toNat = false := by
    simp only [isLeadingSurrogate, Bool.and_eq_false_iff, decide_eq_false_iff_not]
    omega
  simp [readUnit, readHex_of_hexUnit? h, htrailing, hleading, Char.ofNat_toNat]

/-- The halves of a character outside the first plane make that character again. -/
theorem readUnit_of_pair {x₁ x₂ x₃ x₄ y₁ y₂ y₃ y₄ c : Char} (hc : 0x10000 ≤ c.toNat)
    (hx : hexUnit? x₁ x₂ x₃ x₄ = some (0xd800 + (c.toNat - 0x10000) / 0x400))
    (hy : hexUnit? y₁ y₂ y₃ y₄ = some (0xdc00 + (c.toNat - 0x10000) % 0x400)) (rest : Text) :
    readUnit (x₁ :: x₂ :: x₃ :: x₄ :: '\\' :: 'u' :: y₁ :: y₂ :: y₃ :: y₄ :: rest) =
      .ok (c, rest) := by
  have hvalid : c.toNat < 0xd800 ∨ 0xdfff < c.toNat ∧ c.toNat < 0x110000 := c.valid
  have hleading : isLeadingSurrogate (0xd800 + (c.toNat - 0x10000) / 0x400) = true := by
    simp only [isLeadingSurrogate, Bool.and_eq_true, decide_eq_true_eq]
    omega
  have hnot : isTrailingSurrogate (0xd800 + (c.toNat - 0x10000) / 0x400) = false := by
    simp only [isTrailingSurrogate, Bool.and_eq_false_iff, decide_eq_false_iff_not]
    omega
  have htrailing : isTrailingSurrogate (0xdc00 + (c.toNat - 0x10000) % 0x400) = true := by
    simp only [isTrailingSurrogate, Bool.and_eq_true, decide_eq_true_eq]
    omega
  have hnumber : 0x10000 + (0xd800 + (c.toNat - 0x10000) / 0x400 - 0xd800) * 0x400 +
      (0xdc00 + (c.toNat - 0x10000) % 0x400 - 0xdc00) = c.toNat := by omega
  simp only [readUnit, readHex_of_hexUnit? hx, readHex_of_hexUnit? hy, hnot, hleading, htrailing,
    if_true, Bool.false_eq_true, if_false, hnumber, Char.ofNat_toNat]

theorem readEscape_of_mem_letters {e c : Char} (h : (e, c) ∈ letters) (rest : Text) :
    readEscape (e :: rest) = .ok (c, rest) := by
  simp only [letters, List.mem_cons, Prod.mk.injEq, List.not_mem_nil, or_false] at h
  rcases h with ⟨rfl, rfl⟩ | ⟨rfl, rfl⟩ | ⟨rfl, rfl⟩ | ⟨rfl, rfl⟩ | ⟨rfl, rfl⟩ | ⟨rfl, rfl⟩ |
    ⟨rfl, rfl⟩ | ⟨rfl, rfl⟩ <;> rfl

/-- Behind a backslash the reader goes on after the escape. -/
theorem readString_escape {c : Char} {after rest : Text} (h : readEscape after = .ok (c, rest)) :
    readString ('\\' :: after) =
      (readString rest).map fun (text, rest) => (c :: text, rest) := by
  rw [readString]
  split
  · next f hf => simp [h] at hf
  · next d last hd =>
    rw [h] at hd
    cases hd
    rfl

theorem readString_of_spells {p : Text} {c : Char} (h : Spells p c) (rest : Text) :
    readString (p ++ rest) = (readString rest).map fun (text, rest) => (c :: text, rest) := by
  cases h with
  | plain h =>
    obtain ⟨hcontrol, hquote, hbackslash⟩ := h
    rw [List.singleton_append, readString, if_neg (Nat.not_lt.2 hcontrol)]
    · exact fun h => hquote h
    · exact fun h => hbackslash h
  | letter h => exact readString_escape (readEscape_of_mem_letters h rest)
  | unit h => exact readString_escape (readUnit_of_hexUnit? h rest)
  | pair hc hx hy => exact readString_escape (readUnit_of_pair hc hx hy rest)

/-- A string is read as the text that it denotes, whatever follows its closing mark. -/
theorem readString_of_denotes {s t : Text} (h : Denotes s t) (rest : Text) :
    readString (s ++ '"' :: rest) = .ok (t, rest) := by
  induction h with
  | nil => rw [List.nil_append, readString]
  | cons hp _ ih =>
    rw [List.append_assoc, readString_of_spells hp, ih]
    rfl

/-! ## What is written is a spelling -/

theorem hexUnit?_renderHex_one {n : Nat} (h : n < 0x10) :
    ∃ x, Numeral.renderHex n = [x] ∧ hexUnit? '0' '0' '0' x = some n := by
  refine ⟨Nat.digitChar n, Nat.toDigits_of_lt_base h, ?_⟩
  have hx := Text.Quoted.hexValue?_digitChar n h
  have hzero : Text.Quoted.hexValue? '0' = some 0 := rfl
  simp [hexUnit?, hx, hzero]

theorem hexUnit?_renderHex_two {n : Nat} (h : 0x10 ≤ n) (h' : n < 0x20) :
    ∃ x y, Numeral.renderHex n = [x, y] ∧ hexUnit? '0' '0' x y = some n := by
  have hdigits : Numeral.renderHex n = [Nat.digitChar (n / 16), Nat.digitChar (n % 16)] := by
    have hlead : Nat.toDigits 16 (n / 16) = [Nat.digitChar (n / 16)] :=
      Nat.toDigits_of_lt_base (by omega)
    rw [Numeral.renderHex, Nat.toDigits_eq_if (by decide), if_neg (by omega), hlead]
    rfl
  have hx := Text.Quoted.hexValue?_digitChar (n / 16) (by omega)
  have hy := Text.Quoted.hexValue?_digitChar (n % 16) (by omega)
  have hzero : Text.Quoted.hexValue? '0' = some 0 := rfl
  refine ⟨_, _, hdigits, ?_⟩
  simp [hexUnit?, hx, hy, hzero, Nat.div_add_mod']

theorem spells_escape (c : Char) : Spells (escape c) c := by
  unfold escape
  split
  case h_8 c hquote hbackslash _ _ _ _ _ =>
    split
    · next hlt =>
      obtain ⟨x, hx, hunit⟩ := hexUnit?_renderHex_one hlt
      rw [hx]
      exact .unit hunit
    · next hge =>
      split
      · next hlt =>
        obtain ⟨x, y, hxy, hunit⟩ := hexUnit?_renderHex_two (Nat.not_lt.1 hge) hlt
        rw [hxy]
        exact .unit hunit
      · next hplain =>
        exact .plain ⟨Nat.not_lt.1 hplain, hquote, hbackslash⟩
  all_goals exact .letter (by decide)

theorem denotes_escape (t : Text) : Denotes (t.flatMap escape) t := by
  induction t with
  | nil => exact .nil
  | cons c t ih => exact .cons (spells_escape c) ih

theorem isString_quote (t : Text) : IsString t (quote t) := ⟨_, denotes_escape t, rfl⟩

/-! ## Passing over a string -/

theorem skipEscape_of_mem_letters {e : Char} (h : e ∈ letters.map Prod.fst) (rest : Text) :
    skipEscape (e :: rest) = .ok rest := by
  simp only [letters, List.map_cons, List.map_nil, List.mem_cons, List.not_mem_nil, or_false] at h
  rcases h with rfl | rfl | rfl | rfl | rfl | rfl | rfl | rfl <;> rfl

theorem skipString_escape {after rest : Text} (h : skipEscape after = .ok rest) :
    skipString ('\\' :: after) = skipString rest := by
  rw [skipString]
  split
  · next f hf => simp [h] at hf
  · next last hlast =>
    rw [h] at hlast
    cases hlast
    rfl

theorem skipString_of_isPiece {p : Text} (h : IsPiece p) (rest : Text) :
    skipString (p ++ rest) = skipString rest := by
  cases h with
  | plain h =>
    obtain ⟨hcontrol, hquote, hbackslash⟩ := h
    rw [List.singleton_append, skipString, if_neg (Nat.not_lt.2 hcontrol)]
    · exact fun h => hquote h
    · exact fun h => hbackslash h
  | letter h => exact skipString_escape (skipEscape_of_mem_letters h rest)
  | unit h =>
    apply skipString_escape
    simp [skipEscape, readHex_of_hexUnit? h]

/-- A string is passed over up to its closing mark. -/
theorem skipString_of_isBody {s : Text} (h : IsBody s) (rest : Text) :
    skipString (s ++ '"' :: rest) = .ok rest := by
  induction h with
  | nil => rw [List.nil_append, skipString]
  | cons hp _ ih => rw [List.append_assoc, skipString_of_isPiece hp, ih]

end DeviceTwin.Json
