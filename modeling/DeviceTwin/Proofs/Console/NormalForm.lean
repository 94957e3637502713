import DeviceTwin.Console.Reply
import DeviceTwin.Proofs.Console.CommandGrammar
import DeviceTwin.Proofs.NodeId.Grammar
import DeviceTwin.Proofs.NodeId.RoundTrip

/-!
# Identifiers as the console shows them

The console shows an identifier in its normal form, and that can be given back to it: it is read as
the argument that it is, and answered in the same way (`normal_form_is_answered_alike`).  This hangs
on white space.  The normal form starts with a tag or a prefix and, where it ends in a text, ends as
the argument did from which that text was read, so that nothing is trimmed from it.
-/

namespace DeviceTwin

namespace NodeId

open Text (IsTrimmed)

/-- Only a text can end a normal form in white space. -/
theorem isTrimmed_render {id : NodeId}
    (h : ∀ t, id.identifier = .text t → ∀ c ∈ t.getLast?, Text.isBlank c = false) :
    IsTrimmed id.render := by
  obtain ⟨space, identifier⟩ := id
  have hne : renderIdentifier identifier ≠ [] := by cases identifier <;> exact List.cons_ne_nil _ _
  have hlast : ∀ c ∈ (renderIdentifier identifier).getLast?, Text.isBlank c = false := by
    cases identifier with
    | numeric n =>
      intro c hc
      have hmem : c ∈ 'i' :: '=' :: Numeral.render n.toNat := List.mem_of_getLast? hc
      simp only [List.mem_cons] at hmem
      rcases hmem with rfl | rfl | hmem
      · rfl
      · rfl
      · apply Text.isBlank_of_isAlphanum
        exact Or.inl (by simp [Char.isAlphanum, Numeral.isDigit_of_mem_render hmem])
    | text t =>
      by_cases hnil : t = []
      · rw [hnil]
        rintro c ⟨⟩
        rfl
      · have hsame : (renderIdentifier (.text t)).getLast? = t.getLast? :=
          List.getLast?_append_of_ne_nil ['s', '='] hnil
        rw [hsame]
        exact h t rfl
  by_cases hspace : space = standardSpace
  · rw [render, if_pos hspace]
    refine ⟨?_, hlast⟩
    cases identifier <;> rintro c ⟨⟩ <;> rfl
  · rw [render, if_neg hspace]
    constructor
    · rintro c ⟨⟩
      rfl
    · rw [← List.singleton_append (l := renderIdentifier identifier), ← List.append_assoc,
        List.getLast?_append_of_ne_nil _ hne]
      exact hlast

theorem render_ne_nil (id : NodeId) : id.render ≠ [] := by
  intro hnil
  have hempty := parse_render id
  rw [hnil] at hempty
  cases hempty

/-- The normal form of what is read from a text without white space at its ends has none there. -/
theorem isTrimmed_render_of_parse {s : Text} (hs : IsTrimmed s) {id : NodeId}
    (h : parse s = .ok id) : IsTrimmed id.render := by
  apply isTrimmed_render
  intro t ht c hc
  obtain ⟨space, identifier⟩ := id
  obtain rfl : identifier = .text t := ht
  obtain ⟨front, rfl⟩ := isSuffix_of_parse h
  have hne : t ≠ [] := by
    rintro rfl
    cases hc
  apply hs.2
  rwa [List.getLast?_append_of_ne_nil front hne]

end NodeId

namespace Console

open Text (Blanks IsTrimmed)

theorem argument_of_parseLine {line t : Text}
    (h : Command.parseLine line = .ok (some (.parse t))) : t ≠ [] ∧ IsTrimmed t := by
  rcases parseLine_eq_some_iff.1 h with ⟨hnone⟩ | ⟨hargument, -, -, -, -, hne, htrimmed⟩
  · cases hnone
  · obtain rfl := Option.some.inj hargument
    exact ⟨hne, htrimmed⟩

theorem parseLine_parse {t : Text} (hne : t ≠ []) (ht : IsTrimmed t) :
    Command.parseLine ("parse ".toList ++ t) = .ok (some (.parse t)) := by
  have hword : Names "parse".toList (.parse t) := names_iff.2 (List.mem_singleton.2 rfl)
  have hgap : Blanks " ".toList := by decide
  apply parseLine_eq_some_iff.2
  refine @Asks.applied _ _ [] "parse".toList " ".toList t [] rfl hword
    Text.blanks_nil hgap (by decide) hne ht Text.blanks_nil ?_
  rw [List.append_nil]
  rfl

theorem parseText_of_parse {t : Text} {id : NodeId} (h : NodeId.parse t = .ok id) :
    parseText t = describeId id := by
  simp only [parseText, h]

/-- What is shown of an identifier starts with its normal form. -/
theorem exists_describeId_eq (id : NodeId) :
    ∃ rest, describeId id = id.render ++ " (".toList ++ rest := by
  unfold describeId
  dsimp only
  split
  · exact ⟨_, by simp only [List.append_assoc]; rfl⟩
  · exact ⟨_, by simp only [List.append_assoc]; rfl⟩

/-- The normal form that is shown can be given back.  An argument that was read from a line is never
refused for being empty.  If it is an identifier, then its normal form, which the answer starts
with, is read as an argument just as it stands, and answered in the same way. -/
theorem normal_form_is_answered_alike {line t : Text}
    (h : Command.parseLine line = .ok (some (.parse t))) :
    NodeId.parse t ≠ .error .empty ∧ ∀ id, NodeId.parse t = .ok id →
      Command.parseLine ("parse ".toList ++ id.render) = .ok (some (.parse id.render)) ∧
      ∀ s k, execute s k (.parse id.render) = execute s k (.parse t) ∧
        ∃ rest, (execute s k (.parse t)).result =
          .ok (.text (id.render ++ " (".toList ++ rest)) := by
  obtain ⟨hne, htrimmed⟩ := argument_of_parseLine h
  refine ⟨NodeId.parse_ne_empty hne, fun id hid => ⟨?_, fun s k => ⟨?_, ?_⟩⟩⟩
  · exact parseLine_parse id.render_ne_nil (NodeId.isTrimmed_render_of_parse htrimmed hid)
  · rw [execute, execute, parseText_of_parse hid, parseText_of_parse (NodeId.parse_render id)]
  · obtain ⟨rest, hrest⟩ := exists_describeId_eq id
    refine ⟨rest, ?_⟩
    rw [execute, parseText_of_parse hid, hrest]

/-- An index with a sign, and a text that starts with white space, behind a name in capital
letters. -/
theorem normal_form_is_answered_alike_spaced :
    Command.parseLine "\tPARSE \x0c ns=+01; x y ".toList =
        .ok (some (.parse "ns=+01; x y".toList)) ∧
      Command.parseLine "parse ns=1;s= x y".toList = .ok (some (.parse "ns=1;s= x y".toList)) ∧
      execute {} 0 (.parse "ns=1;s= x y".toList) = execute {} 0 (.parse "ns=+01; x y".toList) := by
  have hline : Command.parseLine "\tPARSE \x0c ns=+01; x y ".toList =
      .ok (some (.parse "ns=+01; x y".toList)) := by decide
  have hid : NodeId.parse "ns=+01; x y".toList = .ok ⟨1, .text " x y".toList⟩ := by decide
  obtain ⟨hread, hanswer⟩ := (normal_form_is_answered_alike hline).2 _ hid
  exact ⟨hline, hread, (hanswer {} 0).1⟩

end Console

end DeviceTwin
