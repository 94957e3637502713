import DeviceTwin.Proofs.NodeId.Rows

/-!
# Tables that are printed and read back

Reading a table can only end in rows whose names are identifiers and differ, and whose types stand
on one line, hold no comma, and have no blanks at their ends (`Tabular`).  It can also end in all of
these: `printed_rows_read_back` says that such rows, printed one a line, are read back as they are.
So whatever text was accepted, its rows may be printed in its place.
-/

namespace DeviceTwin.NodeTable

open Text (IsTrimmed)

/-- A row that can be written on one line of a table.  By its type its number is below `2 ^ 32`. -/
structure Row.WellFormed (r : Row) : Prop where
  name : IsIdentifier r.name
  separated : ',' ∉ r.type
  oneLine : '\n' ∉ r.type
  trimmed : IsTrimmed r.type

/-- Rows that a table can hold, each on a line of its own. -/
structure Tabular (rows : List Row) : Prop where
  distinct : (rows.map Row.name).Nodup
  wellFormed : ∀ r ∈ rows, r.WellFormed

/-! ## Rows that have been read -/

theorem wellFormed_of_gives {line : Text} {row : Row} (h : Gives line row) (hline : '\n' ∉ line) :
    row.WellFormed := by
  have htype : '\n' ∉ row.type := fun hmem => hline (mem_of_mem_type h hmem)
  obtain ⟨hname, number, ⟨a, b, t, -, -, -, hcomma, -, -, ht⟩, -⟩ := h
  exact
    { name := hname
      separated := fun hmem => hcomma (Text.mem_of_mem_trim (ht ▸ hmem))
      oneLine := htype
      trimmed := ht ▸ Text.isTrimmed_trim t }

theorem tabular_of_parse {text : Text} {rows : List Row} (h : parse text = .ok rows) :
    Tabular rows := by
  obtain ⟨hgives, hdistinct, -⟩ := parseLines_eq_ok_iff.1 h
  refine ⟨hdistinct, fun r hr => ?_⟩
  obtain ⟨l, hl, hlr⟩ := exists_line_of_mem hgives hr
  exact wellFormed_of_gives hlr
    (Text.lineFeed_not_mem_of_mem_lines (List.mem_of_mem_filter hl))

/-! ## Rows that are printed -/

theorem isAlphanum_of_mem_identifier {name : Text} (h : IsIdentifier name) {c : Char}
    (hc : c ∈ name) : c.isAlphanum = true ∨ c = '_' := by
  simpa [isNamePart] using isNamePart_of_mem (isName_iff.2 h) hc

/-- Letters, digits and underscores are no marks. -/
theorem not_mem_identifier {name : Text} (h : IsIdentifier name) {mark : Char}
    (hmark : mark.isAlphanum = false ∧ mark ≠ '_') : mark ∉ name := by
  intro hmem
  rcases isAlphanum_of_mem_identifier h hmem with halpha | heq
  · simp [hmark.1] at halpha
  · exact hmark.2 heq

theorem isAlphanum_of_mem_render {n : Nat} {c : Char} (hc : c ∈ Numeral.render n) :
    c.isAlphanum = true := by
  simp [Char.isAlphanum, Numeral.isDigit_of_mem_render hc]

theorem comma_not_mem_render (n : Nat) : ',' ∉ Numeral.render n :=
  fun hmem => absurd (isAlphanum_of_mem_render hmem) (by decide)

theorem not_skipped_cons {c : Char} {rest : Text} (hblank : Text.isBlank c = false)
    (hmark : c ≠ '#') : ¬ Skipped (c :: rest) := by
  rintro (h | ⟨indent, rest', hindent, heq⟩)
  · exact absurd (h c List.mem_cons_self) (by simp [hblank])
  · cases indent with
    | nil => exact hmark (List.cons.inj heq).1
    | cons x indent =>
      obtain ⟨rfl, -⟩ := List.cons.inj heq
      exact absurd (hindent c List.mem_cons_self) (by simp [hblank])

namespace Row.WellFormed

variable {r : Row} (h : r.WellFormed)

include h

theorem gives_render : Gives r.render r := by
  have hname : IsTrimmed r.name := Text.isTrimmed_of_forall fun c hc =>
    Text.isBlank_of_isAlphanum (isAlphanum_of_mem_identifier h.name hc)
  have hnumber : IsTrimmed (Numeral.render r.number.toNat) := Text.isTrimmed_of_forall fun c hc =>
    Text.isBlank_of_isAlphanum (Or.inl (isAlphanum_of_mem_render hc))
  refine ⟨h.name, Numeral.render r.number.toNat, ?_, [], by simp, 0, rfl⟩
  refine ⟨r.name, Numeral.render r.number.toNat, r.type, by simp [Row.render],
    not_mem_identifier h.name (by decide), comma_not_mem_render _, h.separated, ?_⟩
  exact ⟨Text.trim_eq_of_isTrimmed hname, Text.trim_eq_of_isTrimmed hnumber,
    Text.trim_eq_of_isTrimmed h.trimmed⟩

theorem not_skipped_render : ¬ Skipped r.render := by
  obtain ⟨⟨first, rest, hname, hfirst, -⟩, -⟩ := h.name
  have halpha : first.isAlphanum = true ∨ first = '_' :=
    isAlphanum_of_mem_identifier h.name (hname ▸ List.mem_cons_self)
  rw [Row.render, hname]
  apply not_skipped_cons (Text.isBlank_of_isAlphanum halpha)
  rintro rfl
  exact absurd halpha (by decide)

theorem lineFeed_not_mem_render : '\n' ∉ r.render := by
  have hname : '\n' ∉ r.name := not_mem_identifier h.name (by decide)
  have hnumber : '\n' ∉ Numeral.render r.number.toNat :=
    fun hmem => absurd (isAlphanum_of_mem_render hmem) (by decide)
  simp [Row.render, hname, hnumber, h.oneLine]

end Row.WellFormed

namespace Tabular

variable {rows : List Row} (h : Tabular rows)

include h

theorem parseLines_render : parseLines 1 [] (rows.map Row.render) = .ok rows := by
  have hkept : (rows.map Row.render).filter (¬ Skipped ·) = rows.map Row.render := by
    rw [List.filter_eq_self]
    intro l hl
    obtain ⟨r, hr, rfl⟩ := List.mem_map.1 hl
    simpa using (h.wellFormed r hr).not_skipped_render
  have hgives : List.Forall₂ Gives (rows.map Row.render) rows := by
    rw [List.forall₂_map_left_iff, List.forall₂_same]
    exact fun r hr => (h.wellFormed r hr).gives_render
  rw [parseLines_eq_ok_iff, hkept]
  exact ⟨hgives, h.distinct, fun _ _ => List.not_mem_nil⟩

theorem lineFeed_not_mem : ∀ l ∈ rows.map Row.render, '\n' ∉ l := by
  intro l hl
  obtain ⟨r, hr, rfl⟩ := List.mem_map.1 hl
  exact (h.wellFormed r hr).lineFeed_not_mem_render

theorem parse_render : parse (render rows) = .ok rows := by
  rw [render, parse_unlines h.lineFeed_not_mem, h.parseLines_render]

/-- The last line need not be ended. -/
theorem parse_join_render : parse (Text.join '\n' (rows.map Row.render)) = .ok rows := by
  cases rows with
  | nil => rfl
  | cons r rows =>
    rw [parse_eq_parseLines_pieces, Text.pieces_join (by simp) h.lineFeed_not_mem,
      h.parseLines_render]

end Tabular

/-! ## The main statement -/

/-- What a table can be read as is exactly what can be printed and read back.  Whatever text is
accepted, its rows are tabular; rows that are tabular are read back from their lines, whether or not
the last of these is ended; and so the rows of an accepted text may be printed in its place. -/
theorem printed_rows_read_back :
    (∀ text rows, parse text = .ok rows → Tabular rows) ∧
    (∀ rows, Tabular rows → parse (render rows) = .ok rows ∧
      parse (Text.join '\n' (rows.map Row.render)) = .ok rows) ∧
    ∀ text rows, parse text = .ok rows → parse (render rows) = .ok rows :=
  ⟨fun _ _ => tabular_of_parse, fun _ h => ⟨h.parse_render, h.parse_join_render⟩,
    fun _ _ h => (tabular_of_parse h).parse_render⟩

/-- A table with all kinds of blanks, a comment, a type with a carriage return in it, and an empty
type. -/
theorem printed_rows_read_back_ragged :
    parse "# c\r\n _a1 ,\t+07 , x\ry \r\n\nb,2,".toList =
        .ok [⟨"_a1".toList, 7, "x\ry".toList⟩, ⟨['b'], 2, []⟩] ∧
      Tabular [⟨"_a1".toList, 7, "x\ry".toList⟩, ⟨['b'], 2, []⟩] ∧
      render [⟨"_a1".toList, 7, "x\ry".toList⟩, ⟨['b'], 2, []⟩] = "_a1,7,x\ry\nb,2,\n".toList ∧
      parse "_a1,7,x\ry\nb,2,\n".toList =
        .ok [⟨"_a1".toList, 7, "x\ry".toList⟩, ⟨['b'], 2, []⟩] := by
  obtain ⟨hrange, -, hagain⟩ := printed_rows_read_back
  have hparse : parse "# c\r\n _a1 ,\t+07 , x\ry \r\n\nb,2,".toList =
      .ok [⟨"_a1".toList, 7, "x\ry".toList⟩, ⟨['b'], 2, []⟩] := by rfl
  have hrender : render [⟨"_a1".toList, 7, "x\ry".toList⟩, ⟨['b'], 2, []⟩] =
      "_a1,7,x\ry\nb,2,\n".toList := by decide
  exact ⟨hparse, hrange _ _ hparse, hrender, hrender ▸ hagain _ _ hparse⟩

end DeviceTwin.NodeTable
