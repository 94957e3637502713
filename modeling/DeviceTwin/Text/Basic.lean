/-!
# Texts

A text is a list of characters, so that every reader in the library recurses on the text it reads.
This module holds the two ways of taking a text apart at separators: once, at the first character
of a kind (`cutAt`), and everywhere, at one separator (`pieces`).  `cutAt_append` says where the cut
falls, and `join_pieces` with `pieces_join` say that pieces and separators hold the whole text and
nothing else.

A line ends at a line feed, and a carriage return right before that line feed belongs to the line
end.  The last line need not be ended; a carriage return at its end is then part of the line.
-/

namespace DeviceTwin

/-- A text: its characters in order. -/
abbrev Text := List Char

namespace Text

/-- What stands before and what stands after the first character that satisfies `p`. -/
def cutAt (p : Char → Bool) : Text → Option (Text × Text)
  | [] => none
  | c :: rest => if p c then some ([], rest) else (cutAt p rest).map fun (a, b) => (c :: a, b)

/-- The stretches between separators, the empty ones included; there is always one. -/
def pieces (sep : Char) : Text → List Text
  | [] => [[]]
  | c :: rest =>
    if c = sep then [] :: pieces sep rest
    else match pieces sep rest with
      | [] => [[c]]
      | first :: others => (c :: first) :: others

/-- Texts one after the other with a separator between neighbours. -/
def join (sep : Char) : List Text → Text
  | [] => []
  | [t] => t
  | t :: next :: rest => t ++ sep :: join sep (next :: rest)

/-- ASCII letters in lower case; every other character stays as it is. -/
def lower (t : Text) : Text := t.map Char.toLower

/-- A line without the carriage return that belonged to its end. -/
def chomp (line : Text) : Text :=
  if line.getLast? = some '\r' then line.dropLast else line

/-- The lines among the stretches between line feeds: the last stretch is a line only if it holds
something, and nothing ended it. -/
def linesOfPieces : List Text → List Text
  | [] => []
  | [last] => if last = [] then [] else [last]
  | line :: next :: rest => chomp line :: linesOfPieces (next :: rest)

/-- The lines of a text, without their ends. -/
def lines (t : Text) : List Text := linesOfPieces (pieces '\n' t)

/-- A text in which every one of the given lines is ended by a line feed. -/
def unlines (ls : List Text) : Text := ls.flatMap (· ++ ['\n'])

/-! ## Where the cut falls -/

theorem cutAt_eq_none_iff {p : Char → Bool} {t : Text} :
    cutAt p t = none ↔ ∀ c ∈ t, p c = false := by
  induction t with
  | nil => simp [cutAt]
  | cons c rest ih => by_cases h : p c <;> simp [cutAt, h, ih]

theorem cutAt_append {p : Char → Bool} {a : Text} {c : Char} {b : Text}
    (ha : ∀ x ∈ a, p x = false) (hc : p c = true) :
    cutAt p (a ++ c :: b) = some (a, b) := by
  induction a with
  | nil => simp [cutAt, hc]
  | cons x a ih =>
    have hx : p x = false := ha x (by simp)
    have hrest : ∀ y ∈ a, p y = false := fun y hy => ha y (by simp [hy])
    simp [cutAt, hx, ih hrest]

/-! ## Pieces and separators hold the whole text -/

theorem pieces_ne_nil (sep : Char) (t : Text) : pieces sep t ≠ [] := by
  cases t with
  | nil => simp [pieces]
  | cons c rest =>
    by_cases h : c = sep
    · simp [pieces, h]
    · simp only [pieces, h, if_false]
      split <;> simp

theorem join_pieces (sep : Char) (t : Text) : join sep (pieces sep t) = t := by
  induction t with
  | nil => rfl
  | cons c rest ih =>
    cases hp : pieces sep rest with
    | nil => exact absurd hp (pieces_ne_nil sep rest)
    | cons first others =>
      rw [hp] at ih
      by_cases h : c = sep
      · simp [pieces, h, hp, join, ih]
      · cases others with
        | nil => simp_all [pieces, join]
        | cons next others => simp_all [pieces, join]

theorem sep_not_mem_of_mem_pieces {sep : Char} {t piece : Text} (h : piece ∈ pieces sep t) :
    sep ∉ piece := by
  induction t generalizing piece with
  | nil => simp_all [pieces]
  | cons c rest ih =>
    by_cases hc : c = sep
    · simp only [pieces, hc, if_true, List.mem_cons] at h
      rcases h with rfl | h
      · simp
      · exact ih h
    · simp only [pieces, hc, if_false] at h
      split at h
      · next hnil => exact absurd hnil (pieces_ne_nil sep rest)
      · next first others hp =>
        rcases List.mem_cons.1 h with rfl | h
        · simp [Ne.symm hc, ih (hp ▸ List.mem_cons_self)]
        · exact ih (hp ▸ List.mem_cons_of_mem _ h)

theorem pieces_of_not_mem {sep : Char} {t : Text} (h : sep ∉ t) : pieces sep t = [t] := by
  induction t with
  | nil => rfl
  | cons c rest ih =>
    have hc : c ≠ sep := fun e => h (e ▸ List.mem_cons_self)
    have hrest : sep ∉ rest := fun m => h (List.mem_cons_of_mem _ m)
    simp [pieces, hc, ih hrest]

theorem pieces_append_sep {sep : Char} {t rest : Text} (h : sep ∉ t) :
    pieces sep (t ++ sep :: rest) = t :: pieces sep rest := by
  induction t with
  | nil => simp [pieces]
  | cons c t ih =>
    have hc : c ≠ sep := fun e => h (e ▸ List.mem_cons_self)
    have ht : sep ∉ t := fun m => h (List.mem_cons_of_mem _ m)
    simp [pieces, hc, ih ht]

theorem pieces_join {sep : Char} {ts : List Text} (hne : ts ≠ []) (h : ∀ t ∈ ts, sep ∉ t) :
    pieces sep (join sep ts) = ts := by
  induction ts with
  | nil => exact absurd rfl hne
  | cons t ts ih =>
    cases ts with
    | nil => exact pieces_of_not_mem (h t (by simp))
    | cons next ts =>
      have hrest := ih (by simp) (fun u hu => h u (List.mem_cons_of_mem _ hu))
      simp only [join]
      rw [pieces_append_sep (h t (by simp)), hrest]

end Text

end DeviceTwin
