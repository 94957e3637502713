import DeviceTwin.Proofs.Text.Utf8
import Mathlib.Data.Char
import Mathlib.Data.List.Lex

/-!
# The order of texts in UTF-8

Texts compare by their bytes as they do by their code points (`encode_lt_encode_iff`).  The first
byte of a character tells how many bytes it takes, and a longer character has a greater first byte;
characters of one length compare digit by digit.  So two different characters are told apart inside
the bytes of both, whatever follows, and never by one of them ending.
-/

namespace DeviceTwin

namespace Utf8

/-! ## Sequences of bytes -/

section Compare

/-- How single bytes compare. -/
local instance orientedCmp_toNat : Std.OrientedCmp fun a b : UInt8 => compare a.toNat b.toNat :=
  inferInstanceAs (Std.OrientedCmp (compareOn UInt8.toNat))

variable {x y : Bytes}

theorem compareLex_swap : (List.compareLex (fun a b => compare a.toNat b.toNat) x y).swap =
    List.compareLex (fun a b => compare a.toNat b.toNat) y x :=
  Std.OrientedCmp.eq_swap.symm

theorem compareLex_eq_eq_iff :
    List.compareLex (fun a b => compare a.toNat b.toNat) x y = .eq ↔ x = y := by
  induction x generalizing y with
  | nil => cases y <;> simp [List.compareLex]
  | cons a x ih =>
    cases y with
    | nil => simp [List.compareLex]
    | cons b y =>
      rw [List.compareLex_cons_cons, Ordering.then_eq_eq, ih, Nat.compare_eq_eq, UInt8.toNat_inj,
        List.cons.injEq]

theorem compareLex_eq_lt_iff :
    List.compareLex (fun a b => compare a.toNat b.toNat) x y = .lt ↔ x < y := by
  induction x generalizing y with
  | nil => cases y <;> simp [List.compareLex]
  | cons a x ih =>
    cases y with
    | nil => simp [List.compareLex]
    | cons b y =>
      rw [List.compareLex_cons_cons, Ordering.then_eq_lt, ih, Nat.compare_eq_lt, Nat.compare_eq_eq,
        UInt8.toNat_inj, ← UInt8.lt_iff_toNat_lt, List.cons_lt_cons_iff]

end Compare

/-! ## Characters -/

theorem byte_lt_byte {m n : Nat} (hm : m < 256) (hn : n < 256) :
    UInt8.ofNat m < UInt8.ofNat n ↔ m < n := by
  rw [UInt8.lt_iff_toNat_lt, toNat_byte hm, toNat_byte hn]

theorem byte_eq_byte {m n : Nat} (hm : m < 256) (hn : n < 256) :
    UInt8.ofNat m = UInt8.ofNat n ↔ m = n := by
  rw [← UInt8.toNat_inj, toNat_byte hm, toNat_byte hn]

/-- The first of two numbers is smaller in all but the last digit, or in the last digit alone. -/
theorem div_lt_or_mod_lt {m n : Nat} (h : m < n) :
    m / 64 < n / 64 ∨ m / 64 = n / 64 ∧ m % 64 < n % 64 := by
  omega

/-- A smaller character has smaller bytes, whatever follows the two. -/
theorem utf8EncodeChar_append_lt {c d : Char} (h : c < d) (x y : Bytes) :
    String.utf8EncodeChar c ++ x < String.utf8EncodeChar d ++ y := by
  have hlt : c.toNat < d.toNat := h
  have hmax : d.toNat < 0x110000 := by
    rcases d.valid with hlow | ⟨-, hhigh⟩
    · exact Nat.lt_trans hlow (by decide)
    · exact hhigh
  rw [utf8EncodeChar_def, utf8EncodeChar_def]
  by_cases hlong : 0xffff < c.toNat
  · -- Both take four bytes: the digits are compared one by one, from the last to the first.
    have hthird := div_lt_or_mod_lt hlt
    have hsecond : c.toNat / 64 < d.toNat / 64 → _ := div_lt_or_mod_lt
    have hfirst : c.toNat / 64 / 64 < d.toNat / 64 / 64 → _ := div_lt_or_mod_lt
    simp only [Nat.div_div_eq_div_mul, Nat.reduceMul] at hsecond hfirst
    have hc : c.toNat / 262144 % 8 = c.toNat / 262144 := Nat.mod_eq_of_lt (by omega)
    have hd : d.toNat / 262144 % 8 = d.toNat / 262144 := Nat.mod_eq_of_lt (by omega)
    simp (disch := omega) only [if_neg, List.cons_append, List.nil_append, List.cons_lt_cons_iff,
      byte_lt_byte, byte_eq_byte, hc, hd]
    omega
  · split_ifs <;>
      simp (disch := omega) only [List.cons_append, List.nil_append, List.cons_lt_cons_iff,
        byte_lt_byte, byte_eq_byte] <;>
      omega

/-! ## Texts -/

theorem encode_lt_encode {s t : Text} (h : s < t) : encode s < encode t := by
  induction s generalizing t with
  | nil =>
    cases t with
    | nil => exact absurd h (List.lt_irrefl [])
    | cons d t =>
      obtain ⟨b, rest, hbytes⟩ := List.exists_cons_of_ne_nil (encode_ne_nil (List.cons_ne_nil d t))
      rw [hbytes]
      exact List.nil_lt_cons b rest
  | cons c s ih =>
    cases t with
    | nil => exact absurd h (List.not_lt_nil _)
    | cons d t =>
      rw [encode_cons, encode_cons]
      rcases List.cons_lt_cons_iff.1 h with hchar | ⟨rfl, hrest⟩
      · exact utf8EncodeChar_append_lt hchar _ _
      · exact List.append_left_lt (ih hrest)

/-- Texts compare by their bytes as they do by their code points. -/
theorem encode_lt_encode_iff {s t : Text} : encode s < encode t ↔ s < t := by
  constructor
  · intro h
    rcases lt_trichotomy s t with hlt | rfl | hgt
    · exact hlt
    · exact absurd h (List.lt_irrefl _)
    · exact absurd (encode_lt_encode hgt) (List.lt_asymm h)
  · exact encode_lt_encode

theorem encode_inj {s t : Text} : encode s = encode t ↔ s = t := by
  constructor
  · intro h
    have hok : (.ok s : Except Fault Text) = .ok t := by
      rw [← decode_encode s, h, decode_encode]
    exact Except.ok.inj hok
  · rintro rfl
    rfl

end Utf8

end DeviceTwin
