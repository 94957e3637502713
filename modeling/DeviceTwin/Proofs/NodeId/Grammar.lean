import DeviceTwin.NodeId.Notation
import DeviceTwin.Proofs.Text.Numeral

/-!
# The grammar of identifiers

What reads as an identifier is laid down by a grammar: an optional opening that gives the
namespace (`Opens`), and behind it a tagged number, a tagged text, or a text without a tag.  A text
with neither tag nor opening must not be empty and must not look like an opening.
`parse_iff_grammar` says that exactly these texts are read, and what every other text is refused
for.

One relation, `Verdict`, lists what can be said of a text, and `verdict_parse` shows that `parse`
says one of these things.  The other direction is that every entry of the list determines what
`parse` does.
-/

namespace DeviceTwin.NodeId

/-- What may stand in front of an identifier in a namespace: the index of the namespace, or, for
the standard namespace, nothing. -/
def Opens (p : Text) (space : UInt16) : Prop :=
  (∃ index, p = "ns=".toList ++ index ++ [';'] ∧ Numeral.Denotes index space.toNat) ∨
    p = [] ∧ space = standardSpace

/-- A text that has no tag. -/
def Untagged (t : Text) : Prop := ¬ "i=".toList <+: t ∧ ¬ "s=".toList <+: t

/-- Behind what opens an identifier, a text can be read for itself: if nothing opens it, there is
some text, and it does not look like the start of an opening. -/
def Stands (p t : Text) : Prop := p = [] → t ≠ [] ∧ ¬ "ns=".toList <+: t

theorem stands_tagged {p tag : Text} (htag : tag ∈ ["i=".toList, "s=".toList]) (t : Text) :
    Stands p (tag ++ t) := by
  simp only [List.mem_cons, List.not_mem_nil, or_false] at htag
  rintro -
  rcases htag with rfl | rfl <;> simp

/-! ## Behind the opening -/

theorem parseIdentifier_digits (digits : Text) :
    parseIdentifier ("i=".toList ++ digits) =
      match Numeral.parse UInt32.size digits with
      | some n => .ok (.numeric (.ofNat n))
      | none => .error (.invalidNumber digits) := rfl

theorem parseIdentifier_numeric {digits : Text} {n : UInt32}
    (h : Numeral.Denotes digits n.toNat) :
    parseIdentifier ("i=".toList ++ digits) = .ok (.numeric n) := by
  rw [parseIdentifier_digits, Numeral.parse_eq_some_iff.2 ⟨n.toNat_lt, h⟩]
  simp

theorem parseIdentifier_invalid {digits : Text}
    (h : ¬ ∃ n < UInt32.size, Numeral.Denotes digits n) :
    parseIdentifier ("i=".toList ++ digits) = .error (.invalidNumber digits) := by
  rw [parseIdentifier_digits, Numeral.parse_eq_none_iff.2 h]

theorem parseIdentifier_untagged {t : Text} (h : Untagged t) :
    parseIdentifier t = .ok (.text t) := by
  unfold parseIdentifier
  split
  · next digits => exact absurd (List.prefix_append _ _) h.1
  · next rest => exact absurd (List.prefix_append _ _) h.2
  · rfl

/-! ## The opening -/

theorem semicolon_not_mem_of_denotes {index : Text} {n : Nat} (h : Numeral.Denotes index n) :
    ';' ∉ index := by
  intro hmem
  rcases Numeral.isDigit_of_denotes h hmem with heq | hdigit
  · exact absurd heq (by decide)
  · exact absurd hdigit (by decide)

theorem parse_of_unclosed {after : Text} (h : ';' ∉ after) :
    parse ("ns=".toList ++ after) = .error (.missingTerminator ("ns=".toList ++ after)) := by
  have hcut : Text.cutAt (· = ';') after = none := by
    rw [Text.cutAt_eq_none_iff]
    intro c hc
    simpa using fun heq : c = ';' => h (heq ▸ hc)
  show parse ('n' :: 's' :: '=' :: after) = _
  simp [parse, hcut]

/-- An opening ends at the first semicolon. -/
theorem parse_of_closed {index : Text} (h : ';' ∉ index) (rest : Text) :
    parse ("ns=".toList ++ index ++ ';' :: rest) =
      match Numeral.parse UInt16.size index with
      | none => .error (.invalidSpace index)
      | some k => (parseIdentifier rest).map (⟨.ofNat k, ·⟩) := by
  have hcut : Text.cutAt (· = ';') (index ++ ';' :: rest) = some (index, rest) := by
    apply Text.cutAt_append
    · intro c hc
      simpa using fun heq : c = ';' => h (heq ▸ hc)
    · rfl
  show parse ('n' :: 's' :: '=' :: (index ++ ';' :: rest)) = _
  cases hparse : Numeral.parse UInt16.size index with
  | none => simp only [parse, hcut, hparse]
  | some k => simp only [parse, hcut, hparse]

theorem parse_of_opens {p t : Text} {space : UInt16} (h : Opens p space) (ht : Stands p t) :
    parse (p ++ t) = (parseIdentifier t).map (⟨space, ·⟩) := by
  rcases h with ⟨index, rfl, hdenotes⟩ | ⟨rfl, rfl⟩
  · have hindex := Numeral.parse_eq_some_iff.2 ⟨space.toNat_lt, hdenotes⟩
    rw [List.append_assoc, List.singleton_append,
      parse_of_closed (semicolon_not_mem_of_denotes hdenotes), hindex]
    simp only [UInt16.ofNat_toNat]
  · obtain ⟨hne, hopening⟩ := ht rfl
    rw [List.nil_append]
    unfold parse
    split
    · exact absurd rfl hne
    · next after => exact absurd (List.prefix_append _ _) hopening
    · rfl

/-- How a text begins: with nothing, with an opening that does not end, with one that ends at the
first semicolon, or so that it stands for itself. -/
theorem exists_shape (s : Text) :
    s = [] ∨
      (∃ after, s = "ns=".toList ++ after ∧ ';' ∉ after) ∨
      (∃ index rest, s = "ns=".toList ++ index ++ ';' :: rest ∧ ';' ∉ index) ∨
      Stands [] s := by
  by_cases hnil : s = []
  · exact Or.inl hnil
  by_cases hopening : "ns=".toList <+: s
  · obtain ⟨after, rfl⟩ := hopening
    by_cases hmem : ';' ∈ after
    · obtain ⟨index, rest, rfl, hindex⟩ := List.eq_append_cons_of_mem hmem
      exact Or.inr (Or.inr (Or.inl ⟨index, rest, by simp, hindex⟩))
    · exact Or.inr (Or.inl ⟨after, rfl, hmem⟩)
  · exact Or.inr (Or.inr (Or.inr fun _ => ⟨hnil, hopening⟩))

/-! ## What is said of a text -/

/-- What can be said of a text, and when. -/
inductive Verdict : Text → Except ParseError NodeId → Prop where
  | numeric {p digits : Text} {space : UInt16} {n : UInt32} (hopens : Opens p space)
    (hdigits : Numeral.Denotes digits n.toNat) :
    Verdict (p ++ ("i=".toList ++ digits)) (.ok ⟨space, .numeric n⟩)
  | tagged {p : Text} {space : UInt16} (hopens : Opens p space) (t : Text) :
    Verdict (p ++ ("s=".toList ++ t)) (.ok ⟨space, .text t⟩)
  | untagged {p t : Text} {space : UInt16} (hopens : Opens p space) (ht : Untagged t)
    (hstands : Stands p t) : Verdict (p ++ t) (.ok ⟨space, .text t⟩)
  | empty : Verdict [] (.error .empty)
  | unclosed {after : Text} (h : ';' ∉ after) :
    Verdict ("ns=".toList ++ after) (.error (.missingTerminator ("ns=".toList ++ after)))
  | noSpace {value : Text} (rest : Text) (hmem : ';' ∉ value)
    (hnot : ¬ ∃ k < UInt16.size, Numeral.Denotes value k) :
    Verdict ("ns=".toList ++ value ++ ';' :: rest) (.error (.invalidSpace value))
  | noNumber {p value : Text} {space : UInt16} (hopens : Opens p space)
    (hnot : ¬ ∃ n < UInt32.size, Numeral.Denotes value n) :
    Verdict (p ++ ("i=".toList ++ value)) (.error (.invalidNumber value))

/-- What is said of a text behind its opening. -/
theorem verdict_of_opens {p t : Text} {space : UInt16} (hopens : Opens p space)
    (ht : Stands p t) : Verdict (p ++ t) ((parseIdentifier t).map (⟨space, ·⟩)) := by
  by_cases hnumber : "i=".toList <+: t
  · obtain ⟨digits, rfl⟩ := hnumber
    by_cases hdigits : ∃ n < UInt32.size, Numeral.Denotes digits n
    · obtain ⟨n, hlt, hdenotes⟩ := hdigits
      rw [← UInt32.toNat_ofNat_of_lt' hlt] at hdenotes
      rw [parseIdentifier_numeric hdenotes]
      exact Verdict.numeric hopens hdenotes
    · rw [parseIdentifier_invalid hdigits]
      exact Verdict.noNumber hopens hdigits
  by_cases htext : "s=".toList <+: t
  · obtain ⟨rest, rfl⟩ := htext
    exact Verdict.tagged hopens rest
  · rw [parseIdentifier_untagged ⟨hnumber, htext⟩]
    exact Verdict.untagged hopens ⟨hnumber, htext⟩ ht

theorem verdict_parse (s : Text) : Verdict s (parse s) := by
  rcases exists_shape s with rfl | ⟨after, rfl, hafter⟩ | ⟨index, rest, rfl, hindex⟩ | hstands
  · exact Verdict.empty
  · rw [parse_of_unclosed hafter]
    exact Verdict.unclosed hafter
  · by_cases hspace : ∃ k < UInt16.size, Numeral.Denotes index k
    · obtain ⟨k, hlt, hdenotes⟩ := hspace
      rw [← UInt16.toNat_ofNat_of_lt' hlt] at hdenotes
      have hopens : Opens ("ns=".toList ++ index ++ [';']) (.ofNat k) :=
        Or.inl ⟨index, rfl, hdenotes⟩
      have hstands : Stands ("ns=".toList ++ index ++ [';']) rest := by simp [Stands]
      have hsplit : "ns=".toList ++ index ++ ';' :: rest =
          "ns=".toList ++ index ++ [';'] ++ rest := by simp
      rw [hsplit, parse_of_opens hopens hstands]
      exact verdict_of_opens hopens hstands
    · rw [parse_of_closed hindex, Numeral.parse_eq_none_iff.2 hspace]
      exact Verdict.noSpace rest hindex hspace
  · have hopens : Opens [] standardSpace := Or.inr ⟨rfl, rfl⟩
    have hverdict := verdict_of_opens hopens hstands
    rwa [← parse_of_opens hopens hstands] at hverdict

theorem Verdict.eq_parse {s : Text} {r : Except ParseError NodeId} (h : Verdict s r) :
    parse s = r := by
  cases h with
  | numeric hopens hdigits =>
    rw [parse_of_opens hopens (stands_tagged (by simp) _), parseIdentifier_numeric hdigits]
    rfl
  | tagged hopens t =>
    rw [parse_of_opens hopens (stands_tagged (by simp) _)]
    rfl
  | untagged hopens ht hstands =>
    rw [parse_of_opens hopens hstands, parseIdentifier_untagged ht]
    rfl
  | empty => rfl
  | unclosed h => exact parse_of_unclosed h
  | noSpace rest hmem hnot => rw [parse_of_closed hmem, Numeral.parse_eq_none_iff.2 hnot]
  | noNumber hopens hnot =>
    rw [parse_of_opens hopens (stands_tagged (by simp) _), parseIdentifier_invalid hnot]
    rfl

theorem parse_eq_iff_verdict {s : Text} {r : Except ParseError NodeId} :
    parse s = r ↔ Verdict s r := by
  constructor
  · rintro rfl
    exact verdict_parse s
  · exact Verdict.eq_parse

/-- A text that identifies a node is the end of what was read. -/
theorem isSuffix_of_parse {s t : Text} {space : UInt16} (h : parse s = .ok ⟨space, .text t⟩) :
    t <:+ s := by
  rw [parse_eq_iff_verdict] at h
  cases h with
  | tagged hopens t => exact (List.suffix_append _ _).trans (List.suffix_append _ _)
  | untagged hopens ht hstands => exact List.suffix_append _ _

theorem parse_ne_empty {s : Text} (h : s ≠ []) : parse s ≠ .error .empty := by
  rw [ne_eq, parse_eq_iff_verdict]
  rintro ⟨⟩
  exact h rfl

/-! ## The main statement -/

/-- Reading accepts exactly the grammar.  A number is read from an opening, its tag and a numeral
below `2 ^ 32`; a text from an opening, its tag and the text, or from an opening and a text that
has no tag, which without an opening is not empty and does not look like one.  Every other text is
refused: because it is empty; because it looks like an opening and has no semicolon; because what
stands in front of the first semicolon is no index below `2 ^ 16`; and otherwise because what
stands behind the tag is no number below `2 ^ 32`. -/
theorem parse_iff_grammar (s : Text) :
    (∀ n space, parse s = .ok ⟨space, .numeric n⟩ ↔
      ∃ p digits, s = p ++ ("i=".toList ++ digits) ∧ Opens p space ∧
        Numeral.Denotes digits n.toNat) ∧
    (∀ t space, parse s = .ok ⟨space, .text t⟩ ↔
      (∃ p, s = p ++ ("s=".toList ++ t) ∧ Opens p space) ∨
        ∃ p, s = p ++ t ∧ Opens p space ∧ Untagged t ∧
          (p = [] → t ≠ [] ∧ ¬ "ns=".toList <+: t)) ∧
    (parse s = .error .empty ↔ s = []) ∧
    (∀ t, parse s = .error (.missingTerminator t) ↔
      t = s ∧ "ns=".toList <+: s ∧ ';' ∉ s) ∧
    (∀ value, parse s = .error (.invalidSpace value) ↔
      (∃ rest, s = "ns=".toList ++ value ++ ';' :: rest) ∧ ';' ∉ value ∧
        ¬ ∃ k < UInt16.size, Numeral.Denotes value k) ∧
    ∀ value, parse s = .error (.invalidNumber value) ↔
      (∃ p space, s = p ++ ("i=".toList ++ value) ∧ Opens p space) ∧
        ¬ ∃ n < UInt32.size, Numeral.Denotes value n := by
  simp only [parse_eq_iff_verdict]
  refine ⟨fun n space => ?_, fun t space => ?_, ?_, fun t => ?_, fun value => ?_, fun value => ?_⟩
  · constructor
    · rintro ⟨hopens, hdigits⟩
      exact ⟨_, _, rfl, hopens, hdigits⟩
    · rintro ⟨p, digits, rfl, hopens, hdigits⟩
      exact Verdict.numeric hopens hdigits
  · constructor
    · intro h
      cases h with
      | tagged hopens t => exact Or.inl ⟨_, rfl, hopens⟩
      | untagged hopens ht hstands => exact Or.inr ⟨_, rfl, hopens, ht, hstands⟩
    · rintro (⟨p, rfl, hopens⟩ | ⟨p, rfl, hopens, ht, hstands⟩)
      · exact Verdict.tagged hopens t
      · exact Verdict.untagged hopens ht hstands
  · constructor
    · rintro ⟨⟩
      rfl
    · rintro rfl
      exact Verdict.empty
  · constructor
    · intro h
      cases h with
      | unclosed hmem => exact ⟨rfl, List.prefix_append _ _, by simpa using hmem⟩
    · rintro ⟨rfl, ⟨after, rfl⟩, hmem⟩
      exact Verdict.unclosed fun h => hmem (List.mem_append_right _ h)
  · constructor
    · intro h
      cases h with
      | noSpace rest hmem hnot => exact ⟨⟨rest, rfl⟩, hmem, hnot⟩
    · rintro ⟨⟨rest, rfl⟩, hmem, hnot⟩
      exact Verdict.noSpace rest hmem hnot
  · constructor
    · intro h
      cases h with
      | noNumber hopens hnot => exact ⟨⟨_, _, rfl, hopens⟩, hnot⟩
    · rintro ⟨⟨p, space, rfl, hopens⟩, hnot⟩
      exact Verdict.noNumber hopens hnot

end DeviceTwin.NodeId
