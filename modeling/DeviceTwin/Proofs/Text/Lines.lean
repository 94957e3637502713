import DeviceTwin.Text.Blank

/-!
# Lines of a text

Lines hold no line feeds, and lines that hold none are the lines of the text in which every one of
them is ended (`pieces_unlines`).  Chomping, trimming and cutting into pieces only take characters
away.
-/

namespace DeviceTwin.Text

/-! ## Lines and pieces -/

/-- Lines before the last stretch are chomped, and the last stretch is a line if it is not empty. -/
theorem linesOfPieces_append (ended : List Text) (last : Text) :
    linesOfPieces (ended ++ [last]) =
      ended.map chomp ++ if last = [] then [] else [last] := by
  induction ended with
  | nil => rfl
  | cons line ended ih =>
    cases ended with
    | nil => simp [linesOfPieces]
    | cons next rest => simpa [linesOfPieces] using ih

theorem pieces_append_singleton (sep : Char) (t : Text) :
    pieces sep (t ++ [sep]) = pieces sep t ++ [[]] := by
  induction t with
  | nil => simp [pieces]
  | cons c t ih =>
    by_cases h : c = sep
    · simp [pieces, h, ih]
    · cases hp : pieces sep t with
      | nil => exact absurd hp (pieces_ne_nil sep t)
      | cons first others =>
        rw [hp] at ih
        simp [pieces, h, hp, ih]

theorem pieces_unlines {ls : List Text} (h : ∀ l ∈ ls, '\n' ∉ l) :
    pieces '\n' (unlines ls) = ls ++ [[]] := by
  induction ls with
  | nil => rfl
  | cons l ls ih =>
    have hrest : ∀ l ∈ ls, '\n' ∉ l := fun x hx => h x (List.mem_cons_of_mem _ hx)
    have hunlines : unlines (l :: ls) = l ++ '\n' :: unlines ls := by simp [unlines]
    rw [hunlines, pieces_append_sep (h l List.mem_cons_self), ih hrest, List.cons_append]

theorem lines_unlines {ls : List Text} (h : ∀ l ∈ ls, '\n' ∉ l) :
    lines (unlines ls) = ls.map chomp := by
  rw [lines, pieces_unlines h, linesOfPieces_append, if_pos rfl, List.append_nil]

theorem join_append (sep : Char) {first second : List Text} (hfirst : first ≠ [])
    (hsecond : second ≠ []) :
    join sep (first ++ second) = join sep first ++ sep :: join sep second := by
  induction first with
  | nil => exact absurd rfl hfirst
  | cons t first ih =>
    cases first with
    | nil =>
      obtain ⟨u, second, rfl⟩ := List.exists_cons_of_ne_nil hsecond
      rfl
    | cons next first => simpa [join] using ih (by simp)

/-! ## What is taken away -/

theorem mem_of_mem_chomp {line : Text} {c : Char} (h : c ∈ chomp line) : c ∈ line := by
  unfold chomp at h
  split at h
  · exact line.dropLast_subset h
  · exact h

theorem mem_of_mem_trim {t : Text} {c : Char} (h : c ∈ trim t) : c ∈ t := by
  have hend : c ∈ trimStart t := by
    have hrev : c ∈ (trimStart t).reverse.dropWhile isBlank := List.mem_reverse.1 h
    exact List.mem_reverse.1 ((List.dropWhile_sublist _).mem hrev)
  exact (List.dropWhile_sublist _).mem hend

theorem lineFeed_not_mem_of_mem_lines {t line : Text} (h : line ∈ lines t) : '\n' ∉ line := by
  have hpiece : ∀ piece ∈ pieces '\n' t, '\n' ∉ piece := fun _ => sep_not_mem_of_mem_pieces
  rcases List.eq_nil_or_concat (pieces '\n' t) with hnil | ⟨ended, last, hpieces⟩
  · exact absurd hnil (pieces_ne_nil '\n' t)
  · rw [List.concat_eq_append] at hpieces
    rw [hpieces] at hpiece
    rw [lines, hpieces, linesOfPieces_append, List.mem_append] at h
    rcases h with h | h
    · obtain ⟨piece, hmem, rfl⟩ := List.mem_map.1 h
      exact fun hline => hpiece piece (List.mem_append_left _ hmem) (mem_of_mem_chomp hline)
    · split at h
      · simp at h
      · obtain rfl := List.mem_singleton.1 h
        exact hpiece line (List.mem_append_right _ h)

end DeviceTwin.Text
