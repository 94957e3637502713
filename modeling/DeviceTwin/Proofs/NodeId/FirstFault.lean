import DeviceTwin.Proofs.NodeId.RowLines

/-!
# The first line at fault

A table is refused for its first line that offends after the rows before it, and for nothing else
(`first_offence_is_reported`).  The line is counted with all lines before it, also those without a
row, and what follows it has no say.  If no line offends, each line that is neither blank nor a
comment gives its row.
-/

namespace DeviceTwin.NodeTable

/-- A line of a text is the first at fault: the lines before it are accepted as a table, and it
offends after their rows. -/
structure FirstOffence (text : Text) (e : ParseError) (before : List Text) (line : Text)
    (after : List Text) (rows : List Row) : Prop where
  lines : Text.lines text = before ++ line :: after
  number : e.line = before.length + 1
  accepted : parse (Text.unlines before) = .ok rows
  kept : ¬ Skipped line
  offends : Offends (rows.map Row.name) line e.fault

variable {text : Text} {e : ParseError}

theorem parse_eq_error_iff : parse text = .error e ↔
    ∃ before line after rows, FirstOffence text e before line after rows := by
  have haccepted : ∀ {before line after rows}, Text.lines text = before ++ line :: after →
      (parse (Text.unlines before) = .ok rows ↔ parseLines 1 [] before = .ok rows) := by
    intro before line after rows hlines
    have hfeed : ∀ l ∈ before, '\n' ∉ l := fun l hl =>
      Text.lineFeed_not_mem_of_mem_lines (hlines ▸ List.mem_append_left _ hl)
    rw [parse_unlines hfeed]
  rw [parse, parseLines_eq_error_iff]
  constructor
  · rintro ⟨before, line, after, rows, hlines, hline, hbefore, hkept, hoffends⟩
    exact ⟨before, line, after, rows,
      { lines := hlines
        number := hline.trans (Nat.add_comm _ _)
        accepted := (haccepted hlines).2 hbefore
        kept := hkept
        offends := by simpa using hoffends }⟩
  · rintro ⟨before, line, after, rows, h⟩
    exact ⟨before, line, after, rows, h.lines, h.number.trans (Nat.add_comm _ _),
      (haccepted h.lines).1 h.accepted, h.kept, by simpa using h.offends⟩

/-- The text up to a line at fault settles the answer. -/
theorem exists_front_of_parse (h : parse text = .error e) : ∃ front,
    front.count '\n' + 1 = e.line ∧ (text = front ∨ ∃ rest, text = front ++ '\n' :: rest) ∧
      parse front = .error e ∧ ∀ rest, parse (front ++ '\n' :: rest) = .error e := by
  rw [parse_eq_parseLines_pieces, parseLines_eq_error_iff] at h
  obtain ⟨before, line, after, rows, hpieces, hline, hbefore, hkept, hoffends⟩ := h
  have hfeed : ∀ p ∈ before ++ [line], '\n' ∉ p := by
    intro p hp
    have hmem : p ∈ Text.pieces '\n' text := by
      rw [hpieces, List.append_cons]
      exact List.mem_append_left _ hp
    exact Text.sep_not_mem_of_mem_pieces hmem
  have hfront : Text.pieces '\n' (Text.join '\n' (before ++ [line])) = before ++ [line] :=
    Text.pieces_join (by simp) hfeed
  have hrefused : ∀ later, parseLines 1 [] (before ++ [line] ++ later) = .error e := fun later =>
    parseLines_eq_error_iff.2 ⟨before, line, later, rows, by simp, hline, hbefore, hkept, hoffends⟩
  refine ⟨Text.join '\n' (before ++ [line]), ?_, ?_, ?_, ?_⟩
  · rw [← Text.length_pieces, hfront, hline, List.length_append, List.length_singleton,
      Nat.add_comm]
  · rw [← Text.join_pieces '\n' text, hpieces, List.append_cons]
    cases after with
    | nil => exact Or.inl (by rw [List.append_nil])
    | cons next after => exact Or.inr ⟨_, Text.join_append '\n' (by simp) (by simp)⟩
  · rw [parse_eq_parseLines_pieces, hfront]
    simpa using hrefused []
  · intro rest
    rw [parse_eq_parseLines_pieces, Text.pieces_append_sep_append, hfront]
    exact hrefused _

/-- The first line at fault is reported.  A table is refused with a line and a fault exactly if
that line is the first at fault, and has this fault.  The line is one of the lines of the text, and
whatever follows it may be changed, added or taken away.  If no line is at fault, the table is
accepted with one row for each line that is neither blank nor a comment, in their order. -/
theorem first_offence_is_reported (text : Text) :
    (∀ e, parse text = .error e ↔
      ∃ before line after rows, FirstOffence text e before line after rows) ∧
    (∀ e, parse text = .error e → 1 ≤ e.line ∧ e.line ≤ (Text.lines text).length ∧
      ∃ front, front.count '\n' + 1 = e.line ∧
        (text = front ∨ ∃ rest, text = front ++ '\n' :: rest) ∧
        parse front = .error e ∧ ∀ rest, parse (front ++ '\n' :: rest) = .error e) ∧
    ((¬ ∃ e before line after rows, FirstOffence text e before line after rows) →
      ∃ rows, parse text = .ok rows ∧
        List.Forall₂ Gives ((Text.lines text).filter (¬ Skipped ·)) rows) := by
  refine ⟨fun e => parse_eq_error_iff, ?_, ?_⟩
  · intro e he
    obtain ⟨before, line, after, rows, h⟩ := parse_eq_error_iff.1 he
    have hlength := congrArg List.length h.lines
    rw [List.length_append, List.length_cons] at hlength
    have hnumber := h.number
    exact ⟨by omega, by omega, exists_front_of_parse he⟩
  · intro hnone
    cases hparse : parse text with
    | error e => exact absurd ⟨e, parse_eq_error_iff.1 hparse⟩ hnone
    | ok rows => exact ⟨rows, rfl, (parseLines_eq_ok_iff.1 hparse).1⟩

/-- A name that occurs again on the fourth line.  The comment and the blank line before it are
counted, and the line behind it, which has two fields, is not looked at.  With another name on the
fourth line there are two rows. -/
theorem first_offence_is_reported_duplicate :
    parse "a,1,x\r\n#,,,\n\n a ,2, y\nb,c\n".toList = .error ⟨4, .duplicateName ['a']⟩ ∧
      (∃ before line after rows, FirstOffence "a,1,x\r\n#,,,\n\n a ,2, y\nb,c\n".toList
        ⟨4, .duplicateName ['a']⟩ before line after rows) ∧
      (∃ front, front.count '\n' + 1 = 4 ∧
        ∀ rest, parse (front ++ '\n' :: rest) = .error ⟨4, .duplicateName ['a']⟩) ∧
      ∃ rows, parse "a,1,x\r\n#,,,\n\n b ,2, y".toList = .ok rows ∧
        List.Forall₂ Gives ["a,1,x".toList, " b ,2, y".toList] rows := by
  have hparse : parse "a,1,x\r\n#,,,\n\n a ,2, y\nb,c\n".toList =
      .error ⟨4, .duplicateName ['a']⟩ := by rfl
  obtain ⟨hiff, hfront, -⟩ := first_offence_is_reported "a,1,x\r\n#,,,\n\n a ,2, y\nb,c\n".toList
  obtain ⟨-, -, front, hcount, -, -, hrest⟩ := hfront _ hparse
  obtain ⟨hiff', -, hrows⟩ := first_offence_is_reported "a,1,x\r\n#,,,\n\n b ,2, y".toList
  have hnone : ¬ ∃ e before line after rows,
      FirstOffence "a,1,x\r\n#,,,\n\n b ,2, y".toList e before line after rows := by
    rintro ⟨e, hoffence⟩
    have herror := (hiff' e).2 hoffence
    have hok : parse "a,1,x\r\n#,,,\n\n b ,2, y".toList =
        .ok [⟨['a'], 1, ['x']⟩, ⟨['b'], 2, ['y']⟩] := by rfl
    rw [hok] at herror
    cases herror
  exact ⟨hparse, (hiff _).1 hparse, ⟨front, hcount, hrest⟩, hrows hnone⟩

end DeviceTwin.NodeTable
