import DeviceTwin.NodeId.Source
import DeviceTwin.Proofs.NodeId.Rows
import DeviceTwin.Proofs.Text.Quoted

/-!
# The lines of the source text for a table

A character without a visible form gets into the source text only with a type, which stands
unescaped in the remark about a number, or with the namespace (`cases_of_mem_sourceLines`).  No
type holds a line feed, so that the lines of the text are the thirteen of its own and the four of
every row.  But a type may hold carriage returns between its two ends, which then stand in the text
as they are: `carriageReturn_mem_source_iff` is the exact condition, and `carriageReturn_accepted`
a table that meets it.
-/

namespace DeviceTwin.NodeTable

open Text (Visible)

/-! ## Characters without a visible form -/

theorem isPlain_of_isDigit {c : Char} (h : c.isDigit = true) : Text.isPlain c = true := by
  obtain ⟨hfirst, hlast⟩ := Bool.and_eq_true_iff.1 h
  have hrange : '0'.val ≤ c.val ∧ c.val ≤ '9'.val :=
    ⟨of_decide_eq_true hfirst, of_decide_eq_true hlast⟩
  exact Text.isPlain_of_le (by decide) (by decide) hrange

theorem isPlain_of_isAlpha {c : Char} (h : c.isAlpha = true) : Text.isPlain c = true := by
  rcases Bool.or_eq_true_iff.1 h with hupper | hlower
  · have hrange : 'A'.val ≤ c.val ∧ c.val ≤ 'Z'.val := of_decide_eq_true hupper
    exact Text.isPlain_of_le (by decide) (by decide) hrange
  · obtain ⟨hfirst, hlast⟩ := Bool.and_eq_true_iff.1 hlower
    have hrange : 'a'.val ≤ c.val ∧ c.val ≤ 'z'.val :=
      ⟨of_decide_eq_true hfirst, of_decide_eq_true hlast⟩
    exact Text.isPlain_of_le (by decide) (by decide) hrange

theorem visible_of_isName {name : Text} (h : isName name = true) : Visible name := by
  apply Text.visible_of_isPlain
  rw [List.all_eq_true]
  intro c hc
  have hpart := isNamePart_of_mem h hc
  simp only [isNamePart, Char.isAlphanum, Bool.or_eq_true, decide_eq_true_eq] at hpart
  rcases hpart with (halpha | hdigit) | rfl
  · exact isPlain_of_isAlpha halpha
  · exact isPlain_of_isDigit hdigit
  · decide

theorem visible_render (n : Nat) : Visible (Numeral.render n) := by
  apply Text.visible_of_isPlain
  rw [List.all_eq_true]
  intro c hc
  exact isPlain_of_isDigit (Numeral.isDigit_of_mem_render hc)

theorem visible_sourceHead : ∀ l ∈ sourceHead, Visible l := by
  have h : sourceHead.all (·.all Text.isPlain) = true := by decide
  exact fun l hl => Text.visible_of_isPlain (List.all_eq_true.1 h l hl)

theorem visible_sourceMiddle : ∀ l ∈ sourceMiddle, Visible l := by
  have h : sourceMiddle.all (·.all Text.isPlain) = true := by decide
  exact fun l hl => Text.visible_of_isPlain (List.all_eq_true.1 h l hl)

theorem visible_sourceRows : ∀ l ∈ sourceRows, Visible l := by
  have h : sourceRows.all (·.all Text.isPlain) = true := by decide
  exact fun l hl => Text.visible_of_isPlain (List.all_eq_true.1 h l hl)

section Names

variable {r : Row} (hname : isName r.name = true)

include hname

theorem eq_or_visible_of_mem_numberLines {l : Text} (hl : l ∈ r.numberLines) :
    l = "    /// ".toList ++ r.type ∨ Visible l := by
  unfold Row.numberLines at hl
  rcases List.mem_cons.1 hl with rfl | hl
  · exact Or.inl rfl
  · obtain rfl := List.mem_singleton.1 hl
    apply Or.inr
    simp only [Text.visible_append]
    refine ⟨⟨⟨⟨?_, visible_of_isName hname⟩, ?_⟩, visible_render _⟩, ?_⟩
    all_goals exact Text.visible_of_isPlain (by decide)

theorem visible_tableLine : Visible r.tableLine := by
  unfold Row.tableLine
  simp only [Text.visible_append]
  refine ⟨⟨⟨⟨⟨⟨?_, Text.visible_quote _⟩, ?_⟩, visible_of_isName hname⟩, ?_⟩,
    Text.visible_quote _⟩, ?_⟩
  all_goals exact Text.visible_of_isPlain (by decide)

/-- The namespace is the one part of a line about an identifier that may hold anything. -/
theorem mem_space_of_mem_nodeLine {x : Char} (hx : Text.isUnprintable x = true) {space : Text}
    (hmem : x ∈ r.nodeLine space) : x ∈ space := by
  have hbefore : Visible ("    pub const ".toList ++ r.name ++
      ": super::NodeId = super::NodeId::numeric(super::id::".toList ++ r.name ++
      ", ".toList) := by
    simp only [Text.visible_append]
    refine ⟨⟨⟨⟨?_, visible_of_isName hname⟩, ?_⟩, visible_of_isName hname⟩, ?_⟩
    all_goals exact Text.visible_of_isPlain (by decide)
  have hafter : Visible ");".toList := Text.visible_of_isPlain (by decide)
  unfold Row.nodeLine at hmem
  have hfront := (List.mem_append.1 hmem).resolve_right (hafter.not_mem hx)
  exact (List.mem_append.1 hfront).resolve_left (hbefore.not_mem hx)

end Names

/-- What has no visible form is in the remark about a type or comes from the namespace. -/
theorem cases_of_mem_sourceLines {x : Char} (hx : Text.isUnprintable x = true) {rows : List Row}
    (hnames : ∀ r ∈ rows, isName r.name = true) {space l : Text} (hl : l ∈ sourceLines rows space)
    (hmem : x ∈ l) :
    (∃ r ∈ rows, l = "    /// ".toList ++ r.type ∧ x ∈ r.type) ∨ x ∈ space := by
  have hvisible : ¬Visible l := fun h => h.not_mem hx hmem
  simp only [sourceLines, List.mem_append] at hl
  rcases hl with (((((hl | hl) | hl) | hl) | hl) | hl) | hl
  · exact absurd (visible_sourceHead l hl) hvisible
  · obtain ⟨r, hr, hl⟩ := List.mem_flatMap.1 hl
    have hremark : Visible "    /// ".toList := Text.visible_of_isPlain (by decide)
    obtain rfl := (eq_or_visible_of_mem_numberLines (hnames r hr) hl).resolve_right hvisible
    exact Or.inl ⟨r, hr, rfl, (List.mem_append.1 hmem).resolve_left (hremark.not_mem hx)⟩
  · exact absurd (visible_sourceMiddle l hl) hvisible
  · obtain ⟨r, hr, rfl⟩ := List.mem_map.1 hl
    exact Or.inr (mem_space_of_mem_nodeLine (hnames r hr) hx hmem)
  · exact absurd (visible_sourceRows l hl) hvisible
  · obtain ⟨r, hr, rfl⟩ := List.mem_map.1 hl
    exact absurd (visible_tableLine (hnames r hr)) hvisible
  · obtain rfl := List.mem_singleton.1 hl
    exact absurd (Text.visible_of_isPlain (by decide)) hvisible

/-! ## Line ends -/

section Accepted

variable {rows : List Row} {space : Text}

theorem remark_mem_sourceLines {r : Row} (hr : r ∈ rows) (space : Text) :
    "    /// ".toList ++ r.type ∈ sourceLines rows space := by
  have hmem : "    /// ".toList ++ r.type ∈ rows.flatMap Row.numberLines :=
    List.mem_flatMap.2 ⟨r, hr, List.mem_cons_self⟩
  simp only [sourceLines, List.mem_append, hmem, true_or, or_true]

theorem mem_source_iff {c : Char} (hc : c ≠ '\n') :
    c ∈ source rows space ↔ ∃ l ∈ sourceLines rows space, c ∈ l := by
  simp [source, Text.unlines, hc]

theorem lineFeed_not_mem_sourceLines (h : Accepted rows) (hspace : '\n' ∉ space) :
    ∀ l ∈ sourceLines rows space, '\n' ∉ l := by
  intro l hl hmem
  rcases cases_of_mem_sourceLines (by decide) h.named hl hmem with ⟨r, hr, -, htype⟩ | hcase
  · exact h.oneLine r hr htype
  · exact hspace hcase

theorem pieces_source (h : Accepted rows) (hspace : '\n' ∉ space) :
    Text.pieces '\n' (source rows space) = sourceLines rows space ++ [[]] :=
  Text.pieces_unlines (lineFeed_not_mem_sourceLines h hspace)

theorem length_lines_source (h : Accepted rows) (hspace : '\n' ∉ space) :
    (Text.lines (source rows space)).length = 4 * rows.length + 13 := by
  rw [source, Text.lines_unlines (lineFeed_not_mem_sourceLines h hspace), List.length_map,
    length_sourceLines]

theorem eq_remark_of_carriageReturn_mem (h : Accepted rows) (hspace : '\r' ∉ space) {l : Text}
    (hl : l ∈ sourceLines rows space) (hmem : '\r' ∈ l) :
    ∃ r ∈ rows, l = "    /// ".toList ++ r.type ∧ '\r' ∈ r.type :=
  (cases_of_mem_sourceLines (by decide) h.named hl hmem).resolve_right hspace

/-- The source text for a table has as many lines as it should.  A carriage return is in it
exactly if one is inside a type, and then stands in the remark about that type. -/
theorem carriageReturn_mem_source_iff {text : Text} (h : parse text = .ok rows)
    (hfeed : '\n' ∉ space) (hreturn : '\r' ∉ space) :
    (Text.lines (source rows space)).length = 4 * rows.length + 13 ∧
      ('\r' ∈ source rows space ↔ ∃ r ∈ rows, '\r' ∈ r.type) ∧
      ∀ l ∈ Text.pieces '\n' (source rows space), '\r' ∈ l →
        ∃ r ∈ rows, l = "    /// ".toList ++ r.type := by
  have haccepted := accepted_of_parse h
  refine ⟨length_lines_source haccepted hfeed, ?_, ?_⟩
  · rw [mem_source_iff (by decide)]
    constructor
    · rintro ⟨l, hl, hmem⟩
      obtain ⟨r, hr, -, htype⟩ := eq_remark_of_carriageReturn_mem haccepted hreturn hl hmem
      exact ⟨r, hr, htype⟩
    · rintro ⟨r, hr, htype⟩
      exact ⟨_, remark_mem_sourceLines hr space, List.mem_append_right _ htype⟩
  · intro l hl hmem
    rw [pieces_source haccepted hfeed] at hl
    rcases List.mem_append.1 hl with hl | hl
    · obtain ⟨r, hr, heq, -⟩ := eq_remark_of_carriageReturn_mem haccepted hreturn hl hmem
      exact ⟨r, hr, heq⟩
    · obtain rfl := List.mem_singleton.1 hl
      cases hmem

/-- Carriage returns that end a line do no harm, unlike one inside a type. -/
theorem carriageReturn_mem_source_iff_crossed :
    parse "a,1,x\r\nb,2,y\rz\r\n".toList =
        .ok [⟨['a'], 1, ['x']⟩, ⟨['b'], 2, ['y', '\r', 'z']⟩] ∧
      (Text.lines (source [⟨['a'], 1, ['x']⟩, ⟨['b'], 2, ['y', '\r', 'z']⟩] ['n'])).length = 21 ∧
      '\r' ∈ source [⟨['a'], 1, ['x']⟩, ⟨['b'], 2, ['y', '\r', 'z']⟩] ['n'] := by
  have hparse : parse "a,1,x\r\nb,2,y\rz\r\n".toList =
      .ok [⟨['a'], 1, ['x']⟩, ⟨['b'], 2, ['y', '\r', 'z']⟩] := by rfl
  obtain ⟨hlength, hmem, -⟩ := carriageReturn_mem_source_iff hparse
    (by decide : '\n' ∉ ['n']) (by decide)
  exact ⟨hparse, hlength, hmem.2 ⟨⟨['b'], 2, ['y', '\r', 'z']⟩, by decide, by decide⟩⟩

/-- A table that is accepted, and whose source text holds a carriage return although there is none
in the namespace. -/
theorem carriageReturn_accepted :
    parse "a,1,x\ry".toList = .ok [⟨['a'], 1, ['x', '\r', 'y']⟩] ∧
      '\n' ∉ "ns".toList ∧ '\r' ∉ "ns".toList ∧
      '\r' ∈ source [⟨['a'], 1, ['x', '\r', 'y']⟩] "ns".toList := by
  refine ⟨rfl, by decide, by decide, (mem_source_iff (by decide)).2 ?_⟩
  have hremark : "    /// ".toList ++ ['x', '\r', 'y'] ∈
      sourceLines [⟨['a'], 1, ['x', '\r', 'y']⟩] "ns".toList :=
    remark_mem_sourceLines (List.mem_singleton_self (⟨['a'], 1, ['x', '\r', 'y']⟩ : Row)) _
  exact ⟨_, hremark, List.mem_append_right _ (by decide)⟩

end Accepted

end DeviceTwin.NodeTable
