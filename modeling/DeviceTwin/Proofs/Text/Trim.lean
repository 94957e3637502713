import DeviceTwin.Proofs.Text.Lines
import Mathlib.Data.List.Basic
import Mathlib.Data.List.TakeWhile

/-!
# Trimming

A text is what trimming leaves of it between blanks (`exists_blanks_trim`), and that is settled by
neither starting nor ending with a blank (`trim_eq_iff`).  So it makes no difference to the pieces
of a text, once they are trimmed, whether the text was trimmed before it was cut
(`map_trim_pieces_trim`).
-/

namespace DeviceTwin.Text

/-- A text of blanks and of nothing else. -/
def Blanks (t : Text) : Prop := ∀ c ∈ t, isBlank c = true

instance (t : Text) : Decidable (Blanks t) := List.decidableBAll _ t

variable {a b t u : Text}

theorem blanks_nil : Blanks [] := nofun

theorem not_mem_of_blanks {c : Char} (h : Blanks t) (hc : isBlank c = false) : c ∉ t :=
  fun hmem => by simp [h c hmem] at hc

/-! ## One end -/

theorem trimStart_of_blanks (h : Blanks t) : trimStart t = [] :=
  List.dropWhile_eq_nil_iff.2 h

theorem trimStart_append (h : Blanks a) (t : Text) : trimStart (a ++ t) = trimStart t :=
  List.dropWhile_append_of_pos h

theorem exists_blanks_trimStart (t : Text) : ∃ a, Blanks a ∧ t = a ++ trimStart t :=
  ⟨t.takeWhile isBlank, fun _ => List.mem_takeWhile_imp, List.takeWhile_append_dropWhile.symm⟩

theorem trimEnd_append (t : Text) (h : Blanks b) : trimEnd (t ++ b) = trimEnd t := by
  have hrev : ∀ c ∈ b.reverse, isBlank c = true := fun c hc => h c (List.mem_reverse.1 hc)
  rw [trimEnd, List.reverse_append, List.dropWhile_append_of_pos hrev, trimEnd]

theorem exists_blanks_trimEnd (t : Text) : ∃ b, Blanks b ∧ t = trimEnd t ++ b := by
  obtain ⟨b, hb, hrev⟩ := exists_blanks_trimStart t.reverse
  refine ⟨b.reverse, fun c hc => hb c (List.mem_reverse.1 hc), ?_⟩
  have hsame := congrArg List.reverse hrev
  rwa [List.reverse_reverse, List.reverse_append] at hsame

/-! ## Characters that are no blanks -/

/-- No blank lies between the space and the end of ASCII. -/
theorem isBlank_of_le {first last c : Char} (hfirst : 0x20 < first.toNat)
    (hlast : last.toNat < 0x7f) (h : first.val ≤ c.val ∧ c.val ≤ last.val) :
    isBlank c = false := by
  have hle : first.toNat ≤ c.toNat := UInt32.le_iff_toNat_le.1 h.1
  have hge : c.toNat ≤ last.toNat := UInt32.le_iff_toNat_le.1 h.2
  simp only [isBlank, Bool.or_eq_false_iff, Bool.and_eq_false_iff, decide_eq_false_iff_not]
  omega

theorem isBlank_of_isAlphanum {c : Char} (h : c.isAlphanum = true ∨ c = '_') :
    isBlank c = false := by
  rcases h with h | rfl
  · rcases Bool.or_eq_true_iff.1 h with halpha | hdigit
    · rcases Bool.or_eq_true_iff.1 halpha with hupper | hlower
      · have hrange : 'A'.val ≤ c.val ∧ c.val ≤ 'Z'.val := of_decide_eq_true hupper
        exact isBlank_of_le (by decide) (by decide) hrange
      · obtain ⟨hfirst, hlast⟩ := Bool.and_eq_true_iff.1 hlower
        exact isBlank_of_le (by decide) (by decide)
          ⟨of_decide_eq_true hfirst, of_decide_eq_true hlast⟩
    · obtain ⟨hfirst, hlast⟩ := Bool.and_eq_true_iff.1 hdigit
      exact isBlank_of_le (by decide) (by decide)
        ⟨of_decide_eq_true hfirst, of_decide_eq_true hlast⟩
  · rfl

theorem isTrimmed_of_forall (h : ∀ c ∈ t, isBlank c = false) : IsTrimmed t :=
  ⟨fun c hc => h c (List.mem_of_mem_head? hc), fun c hc => h c (List.mem_of_getLast? hc)⟩

/-! ## Both ends -/

theorem trim_append_left (h : Blanks a) (t : Text) : trim (a ++ t) = trim t := by
  rw [trim, trimStart_append h, trim]

theorem trim_append_right (t : Text) (h : Blanks b) : trim (t ++ b) = trim t := by
  obtain ⟨a, ha, ht⟩ := exists_blanks_trimStart t
  cases hstart : trimStart t with
  | nil =>
    -- Nothing but blanks is left, on both sides of the equation.
    rw [hstart, List.append_nil] at ht
    have hall : trimStart (t ++ b) = [] := by
      rw [ht, trimStart_append ha, trimStart_of_blanks h]
    rw [trim, hall, trim, hstart]
  | cons c rest =>
    have hc : isBlank c = false := head?_dropWhile_of_not (congrArg List.head? hstart)
    have hkeep : trimStart (t ++ b) = trimStart t ++ b := by
      rw [ht, List.append_assoc, trimStart_append ha, trimStart_append ha, hstart]
      simp [trimStart, List.dropWhile, hc]
    rw [trim, hkeep, trimEnd_append _ h, trim]

theorem exists_blanks_trim (t : Text) : ∃ a b, Blanks a ∧ Blanks b ∧ t = a ++ trim t ++ b := by
  obtain ⟨a, ha, ht⟩ := exists_blanks_trimStart t
  obtain ⟨b, hb, hstart⟩ := exists_blanks_trimEnd (trimStart t)
  refine ⟨a, b, ha, hb, ?_⟩
  rw [List.append_assoc, trim, ← hstart]
  exact ht

theorem isTrimmed_trim (t : Text) : IsTrimmed (trim t) := by
  obtain ⟨b, hb, hstart⟩ := exists_blanks_trimEnd (trimStart t)
  constructor
  · intro c hc
    have hhead : (trimStart t).head? = some c := by
      rw [hstart, List.head?_append, ← trim, hc]
      rfl
    exact head?_dropWhile_of_not hhead
  · intro c hc
    rw [trim, trimEnd, List.getLast?_reverse] at hc
    exact head?_dropWhile_of_not hc

/-- Trimming leaves what stands between blanks and has none at its ends. -/
theorem trim_eq_iff : trim t = u ↔
    IsTrimmed u ∧ ∃ a b, Blanks a ∧ Blanks b ∧ t = a ++ u ++ b := by
  constructor
  · rintro rfl
    exact ⟨isTrimmed_trim t, exists_blanks_trim t⟩
  · rintro ⟨hu, a, b, ha, hb, rfl⟩
    rw [trim_append_right _ hb, trim_append_left ha, trim_eq_of_isTrimmed hu]

theorem trim_of_blanks (h : Blanks t) : trim t = [] := by
  rw [trim, trimStart_of_blanks h]
  rfl

theorem trim_eq_nil_iff : trim t = [] ↔ Blanks t := by
  constructor
  · intro h
    obtain ⟨a, b, ha, hb, ht⟩ := exists_blanks_trim t
    rw [h, List.append_nil] at ht
    rw [ht]
    intro c hc
    exact (List.mem_append.1 hc).elim (ha c) (hb c)
  · exact trim_of_blanks

/-- The carriage return of a line end is a blank at the end of the line. -/
theorem trim_chomp (line : Text) : trim (chomp line) = trim line := by
  unfold chomp
  split
  · next hlast =>
    have hreturn : Blanks ['\r'] := by simp [Blanks, isBlank]
    have hline : line.dropLast ++ ['\r'] = line := List.dropLast_append_getLast? _ hlast
    have hsame := trim_append_right line.dropLast hreturn
    rw [hline] at hsame
    exact hsame.symm
  · rfl

/-! ## Trimmed pieces -/

section Pieces

variable {sep : Char}

/-- Where two texts meet, the last piece of the one and the first piece of the other are one. -/
theorem exists_pieces_append (sep : Char) (t : Text) : ∃ front last,
    pieces sep t = front ++ [last] ∧ ∀ u first rest, pieces sep u = first :: rest →
      pieces sep (t ++ u) = front ++ (last ++ first) :: rest := by
  induction t with
  | nil => exact ⟨[], [], rfl, fun u first rest hu => hu⟩
  | cons c t ih =>
    obtain ⟨front, last, ht, htu⟩ := ih
    by_cases hc : c = sep
    · refine ⟨[] :: front, last, by simp [pieces, hc, ht], ?_⟩
      intro u first rest hu
      simp [pieces, hc, htu u first rest hu]
    · cases front with
      | nil =>
        refine ⟨[], c :: last, by simp_all [pieces], ?_⟩
        intro u first rest hu
        simp [pieces, hc, htu u first rest hu]
      | cons next front =>
        refine ⟨(c :: next) :: front, last, by simp_all [pieces], ?_⟩
        intro u first rest hu
        simp [pieces, hc, htu u first rest hu]

theorem pieces_append_left (h : sep ∉ a) (t : Text) : ∃ first rest,
    pieces sep t = first :: rest ∧ pieces sep (a ++ t) = (a ++ first) :: rest := by
  obtain ⟨first, rest, ht⟩ := List.exists_cons_of_ne_nil (pieces_ne_nil sep t)
  obtain ⟨front, last, ha, hat⟩ := exists_pieces_append sep a
  rw [pieces_of_not_mem h] at ha
  obtain ⟨rfl, rfl⟩ : front = [] ∧ last = a := by
    simpa [List.singleton_eq_append_iff, eq_comm] using ha
  exact ⟨first, rest, ht, hat t first rest ht⟩

theorem pieces_append_right (t : Text) (h : sep ∉ b) : ∃ front last,
    pieces sep t = front ++ [last] ∧ pieces sep (t ++ b) = front ++ [last ++ b] := by
  obtain ⟨front, last, ht, htb⟩ := exists_pieces_append sep t
  exact ⟨front, last, ht, htb b b [] (pieces_of_not_mem h)⟩

/-- Blanks at the ends of a text are blanks at the ends of its pieces. -/
theorem map_trim_pieces_trim (hsep : isBlank sep = false) (t : Text) :
    (pieces sep (trim t)).map trim = (pieces sep t).map trim := by
  obtain ⟨a, b, ha, hb, ht⟩ := exists_blanks_trim t
  obtain ⟨first, rest, hfirst, hleft⟩ :=
    pieces_append_left (not_mem_of_blanks ha hsep) (trim t)
  obtain ⟨front, last, hlast, hright⟩ :=
    pieces_append_right (a ++ trim t) (not_mem_of_blanks hb hsep)
  calc (pieces sep (trim t)).map trim
      = (pieces sep (a ++ trim t)).map trim := by
        rw [hfirst, hleft, List.map_cons, List.map_cons, trim_append_left ha]
    _ = (pieces sep (a ++ trim t ++ b)).map trim := by
        rw [hlast, hright, List.map_append, List.map_append, List.map_singleton,
          List.map_singleton, trim_append_right _ hb]
    _ = (pieces sep t).map trim := by rw [← ht]

/-- There is one piece more than there are separators. -/
theorem length_pieces (sep : Char) (t : Text) : (pieces sep t).length = t.count sep + 1 := by
  induction t with
  | nil => rfl
  | cons c t ih =>
    by_cases hc : c = sep
    · simp [pieces, hc, ih]
    · obtain ⟨first, rest, ht⟩ := List.exists_cons_of_ne_nil (pieces_ne_nil sep t)
      rw [ht] at ih
      simp [pieces, hc, ht, ← ih]

/-- A separator ends a piece, whatever stands before it. -/
theorem pieces_append_sep_append (sep : Char) (t rest : Text) :
    pieces sep (t ++ sep :: rest) = pieces sep t ++ pieces sep rest := by
  induction t with
  | nil => simp [pieces]
  | cons c t ih =>
    by_cases hc : c = sep
    · simp [pieces, hc, ih]
    · obtain ⟨first, others, ht⟩ := List.exists_cons_of_ne_nil (pieces_ne_nil sep t)
      rw [ht] at ih
      simp [pieces, hc, ht, ih]

end Pieces

end DeviceTwin.Text
