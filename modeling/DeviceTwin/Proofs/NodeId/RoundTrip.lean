import DeviceTwin.NodeId.Notation
import Mathlib.Logic.Function.Defs

/-!
# Identifiers read back

Every identifier is read back from its normal form (`parse_render`), whatever its text holds: the
prefix of the normal form ends at its first semicolon, because numerals hold none, and behind the
prefix stands a tag, which takes the rest as it is.  `notation_reads_back` draws the two
consequences: no two identifiers have one normal form, and the normal form of what was read is
read as the same and is its own normal form.
-/

namespace DeviceTwin.NodeId

theorem parseIdentifier_renderIdentifier (i : Identifier) :
    parseIdentifier (renderIdentifier i) = .ok i := by
  cases i with
  | numeric n =>
    have hnumber : Numeral.parse UInt32.size (Numeral.render n.toNat) = some n.toNat :=
      Numeral.parse_render n.toNat_lt
    simp [parseIdentifier, renderIdentifier, hnumber]
  | text t => rfl

theorem semicolon_not_mem_render {n : Nat} {c : Char} (h : c ∈ Numeral.render n) : c ≠ ';' := by
  rintro rfl
  exact absurd (Numeral.isDigit_of_mem_render h) (by decide)

/-- The prefix ends where its numeral does. -/
theorem parse_prefixed {k : Nat} (hk : k < UInt16.size) (t : Text) :
    parse ('n' :: 's' :: '=' :: Numeral.render k ++ ';' :: t) =
      (parseIdentifier t).map (⟨.ofNat k, ·⟩) := by
  have hcut : Text.cutAt (· = ';') (Numeral.render k ++ ';' :: t) =
      some (Numeral.render k, t) := by
    apply Text.cutAt_append
    · intro c hc
      simpa using semicolon_not_mem_render hc
    · rfl
  simp [parse, hcut, Numeral.parse_render hk]

/-- A tag is not mistaken for a prefix. -/
theorem parse_renderIdentifier (i : Identifier) :
    parse (renderIdentifier i) =
      (parseIdentifier (renderIdentifier i)).map (⟨standardSpace, ·⟩) := by
  cases i <;> rfl

theorem parse_render (id : NodeId) : parse (render id) = .ok id := by
  obtain ⟨space, identifier⟩ := id
  by_cases h : space = standardSpace
  · rw [render, if_pos h, parse_renderIdentifier, parseIdentifier_renderIdentifier, h]
    rfl
  · rw [render, if_neg h, parse_prefixed space.toNat_lt, parseIdentifier_renderIdentifier,
      UInt16.ofNat_toNat]
    rfl

/-- The notation loses nothing: an identifier is read back from its normal form, no two
identifiers have one normal form, and reading a text and writing what was read gives a text that
is read as the same and is written as it stands. -/
theorem notation_reads_back :
    (∀ id, parse (render id) = .ok id) ∧
      Function.Injective render ∧
      ∀ t u, (parse t).map render = .ok u → parse u = parse t ∧ (parse u).map render = .ok u := by
  refine ⟨parse_render, ?_, ?_⟩
  · intro a b h
    have hok : (.ok a : Except ParseError NodeId) = .ok b := by
      rw [← parse_render a, h, parse_render b]
    exact Except.ok.inj hok
  · intro t u h
    cases hparse : parse t with
    | error e =>
      rw [hparse] at h
      cases h
    | ok id =>
      rw [hparse] at h
      obtain rfl : render id = u := Except.ok.inj h
      rw [parse_render]
      exact ⟨rfl, rfl⟩

/-- A liberal prefix in front of a text that looks like a prefix and a number. -/
theorem notation_reads_back_nested :
    parse "ns=+07;ns=1;i=5".toList = .ok ⟨7, .text "ns=1;i=5".toList⟩ ∧
      parse "ns=7;s=ns=1;i=5".toList = parse "ns=+07;ns=1;i=5".toList ∧
      (parse "ns=7;s=ns=1;i=5".toList).map render = .ok "ns=7;s=ns=1;i=5".toList :=
  ⟨rfl, notation_reads_back.2.2 "ns=+07;ns=1;i=5".toList "ns=7;s=ns=1;i=5".toList rfl⟩

end DeviceTwin.NodeId
