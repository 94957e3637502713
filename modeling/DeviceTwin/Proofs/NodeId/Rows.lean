import DeviceTwin.Proofs.NodeId.RowLines

/-!
# Rows of a table

What reading a table promises about its rows, whatever the table looks like: names are identifiers
of source text and differ from each other, and types stand on one line.  Nothing else is promised
about a type; in particular it may hold any other control character between its two ends.
-/

namespace DeviceTwin.NodeTable

/-- Rows that a table can hold. -/
structure Accepted (rows : List Row) : Prop where
  named : ∀ r ∈ rows, isName r.name = true
  distinct : (rows.map Row.name).Nodup
  oneLine : ∀ r ∈ rows, '\n' ∉ r.type

theorem isNamePart_of_mem {name : Text} (h : isName name = true) {c : Char} (hc : c ∈ name) :
    isNamePart c = true := by
  cases name with
  | nil => simp at hc
  | cons first rest =>
    simp only [isName, Bool.and_eq_true, List.all_eq_true] at h
    obtain ⟨⟨⟨hfirst, hrest⟩, -⟩, -⟩ := h
    rcases List.mem_cons.1 hc with rfl | hc
    · simp only [isNameStart, Bool.or_eq_true] at hfirst
      simp only [isNamePart, Char.isAlphanum, Bool.or_eq_true]
      exact hfirst.imp_left Or.inl
    · exact hrest c hc

/-- The type of a row stands in the line that gives the row. -/
theorem mem_of_mem_type {line : Text} {row : Row} (h : Gives line row) {c : Char}
    (hc : c ∈ row.type) : c ∈ line := by
  obtain ⟨-, number, ⟨a, b, t, rfl, -, -, -, -, -, htype⟩, -⟩ := h
  have hmem : c ∈ t := Text.mem_of_mem_trim (htype ▸ hc)
  simp [hmem]

theorem accepted_of_parse {text : Text} {rows : List Row} (h : parse text = .ok rows) :
    Accepted rows := by
  obtain ⟨hgives, hdistinct, -⟩ := parseLines_eq_ok_iff.1 h
  have hline : ∀ r ∈ rows, ∃ l ∈ Text.lines text, Gives l r := by
    intro r hr
    obtain ⟨l, hl, hlr⟩ := exists_line_of_mem hgives hr
    exact ⟨l, List.mem_of_mem_filter hl, hlr⟩
  constructor
  · intro r hr
    obtain ⟨l, -, hname, -⟩ := hline r hr
    exact isName_iff.2 hname
  · exact hdistinct
  · intro r hr hfeed
    obtain ⟨l, hl, hlr⟩ := hline r hr
    exact Text.lineFeed_not_mem_of_mem_lines hl (mem_of_mem_type hlr hfeed)

end DeviceTwin.NodeTable
