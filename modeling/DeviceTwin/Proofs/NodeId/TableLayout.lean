import DeviceTwin.Proofs.NodeId.RowLines

/-!
# The layout of a table

A table can be laid out anew in many ways: with white space at the ends of its lines and beside its
commas, with carriage returns in its line ends, and with lines more that hold no row.  `Relaid` is
what any number of such changes make of a text, wherever they are made, together with the number of
lines that were put in above each line of the text.

Reading takes no notice (`relaid_is_read_alike`): the rows are the same, and so is what is wrong
with the first line at fault, which has moved down by the lines that were put in above it.  The
argument needs two facts.  White space at a margin leaves alone all that is looked at in a line
(`alike_pad`), and a line without a row only moves down what stands below it (`parseLines_insert`).
-/

namespace DeviceTwin.NodeTable

open Text (Blanks pieces trim)

/-! ## Changes of the layout -/

/-- A line starts behind a text: there is no text, or the text ends with a line feed. -/
def StartsLine (before : Text) : Prop := ∀ c ∈ before.getLast?, c = '\n'

/-- A line ends in front of a text: there is no text, or the text starts with a line end. -/
def EndsLine (after : Text) : Prop :=
  after = [] ∨ ['\n'] <+: after ∨ ['\r', '\n'] <+: after

/-- Between two texts is an end of a line, or a side of a comma. -/
inductive Margin (before after : Text) : Prop where
  | lineStart (h : StartsLine before)
  | lineEnd (h : EndsLine after)
  | behindComma (h : before.getLast? = some ',')
  | beforeComma (h : after.head? = some ',')

/-- One change inside the lines: white space other than line feeds is put in at a margin, or a line
end gets a carriage return. -/
inductive Respaces : Text → Text → Prop where
  | pad {before blanks after : Text} (hblanks : Blanks blanks) (hfeed : '\n' ∉ blanks)
    (hmargin : Margin before after) : Respaces (before ++ after) (before ++ blanks ++ after)
  | lineEnd (before after : Text) :
    Respaces (before ++ '\n' :: after) (before ++ '\r' :: '\n' :: after)

/-- One line that holds no row is put in below the first lines, so many as are given: with its line
end where a line starts, behind a last line that is not ended, or as such a last line. -/
inductive Inserts : Nat → Text → Text → Prop where
  | line {before after line : Text} (hstart : StartsLine before) (hskip : Skipped line)
    (hfeed : '\n' ∉ line) :
    Inserts (before.count '\n') (before ++ after) (before ++ line ++ '\n' :: after)
  | behind {text line : Text} (hopen : ¬ StartsLine text) (hskip : Skipped line)
    (hfeed : '\n' ∉ line) : Inserts (text.count '\n' + 1) text (text ++ '\n' :: line)
  | last {text line : Text} (hstart : StartsLine text) (hskip : Skipped line)
    (hfeed : '\n' ∉ line) : Inserts (text.count '\n') text (text ++ line)

/-- A text is made from a text by any number of changes, and so many lines were put in above each
line of the latter. -/
inductive Relaid (text : Text) : Text → (Nat → Nat) → Prop where
  | same : Relaid text text fun _ => 0
  | respace {t u : Text} {above : Nat → Nat} (h : Relaid text t above) (hu : Respaces t u) :
    Relaid text u above
  /-- The line that was line `n` of the text is line `n + above n` by now. -/
  | insert {t u : Text} {above : Nat → Nat} {k : Nat} (h : Relaid text t above)
    (hu : Inserts k t u) : Relaid text u fun n => above n + if k < n + above n then 1 else 0

/-- The error for a line with so many lines more above it. -/
def ParseError.moved (above : Nat → Nat) (e : ParseError) : ParseError :=
  { e with line := e.line + above e.line }

/-! ## White space in a line -/

/-- Nothing that reading looks at is different in two lines. -/
structure Alike (line other : Text) : Prop where
  skipped : isSkipped other = isSkipped line
  fields : fields other = fields line

/-- Where white space may be put into a line. -/
inductive LineMargin (before after : Text) : Prop where
  | start (h : before = [])
  | stop (h : Blanks after)
  | behindComma {init : Text} (h : before = init ++ [','])
  | beforeComma {rest : Text} (h : after = ',' :: rest)

theorem find?_of_blanks {a : Text} (h : Blanks a) : a.find? (!Text.isBlank ·) = none := by
  rw [List.find?_eq_none]
  intro c hc
  simp [h c hc]

/-- The first character that is not blank settles whether a line is skipped. -/
theorem isSkipped_eq_find? (line : Text) :
    isSkipped line = (line.find? (!Text.isBlank ·)).all (· = '#') := by
  obtain ⟨a, b, ha, hb, hline⟩ := Text.exists_blanks_trim line
  have hfind : line.find? (!Text.isBlank ·) = (trim line).find? (!Text.isBlank ·) := by
    conv_lhs => rw [hline]
    rw [List.find?_append, List.find?_append, find?_of_blanks ha, find?_of_blanks hb,
      Option.none_or, Option.or_none]
  rw [hfind, isSkipped]
  split
  · next hnil => simp [hnil]
  · next c rest hcons =>
    have hc : Text.isBlank c = false := (hcons ▸ Text.isTrimmed_trim line).1 c rfl
    simp [hcons, hc]

theorem isSkipped_pad {b : Text} (hb : Blanks b) (p q : Text) :
    isSkipped (p ++ b ++ q) = isSkipped (p ++ q) := by
  simp only [isSkipped_eq_find?, List.find?_append, find?_of_blanks hb, Option.or_none]

theorem fields_eq_of_trim_eq {l l' : Text} (h : trim l' = trim l) : fields l' = fields l := by
  rw [fields, fields, h]

theorem fields_append_comma (l l' : Text) : fields (l ++ ',' :: l') = fields l ++ fields l' := by
  rw [fields_eq, fields_eq, fields_eq, Text.pieces_append_sep_append, List.map_append]

theorem fields_pad {b : Text} (hb : Blanks b) {p q : Text} (h : LineMargin p q) :
    fields (p ++ b ++ q) = fields (p ++ q) := by
  rcases h with rfl | hq | @⟨init, rfl⟩ | @⟨rest, rfl⟩
  · apply fields_eq_of_trim_eq
    exact Text.trim_append_left hb q
  · apply fields_eq_of_trim_eq
    rw [Text.trim_append_right _ hq, Text.trim_append_right _ hb, Text.trim_append_right _ hq]
  · have hright : fields (b ++ q) = fields q := fields_eq_of_trim_eq (Text.trim_append_left hb q)
    rw [List.append_assoc, List.append_assoc, List.append_assoc, List.singleton_append,
      List.singleton_append, fields_append_comma, hright, fields_append_comma]
  · have hleft : fields (p ++ b) = fields p := fields_eq_of_trim_eq (Text.trim_append_right p hb)
    rw [fields_append_comma, hleft, fields_append_comma]

/-- White space at a margin leaves alone all that is looked at. -/
theorem alike_pad {b : Text} (hb : Blanks b) {p q : Text} (h : LineMargin p q) :
    Alike (p ++ q) (p ++ b ++ q) :=
  ⟨isSkipped_pad hb p q, fields_pad hb h⟩

theorem parseLines_of_alike {l l' : Text} (h : Alike l l') (n : Nat) (seen first second) :
    parseLines n seen (first ++ l' :: second) = parseLines n seen (first ++ l :: second) := by
  have hrow : ∀ names, parseRow names l' = parseRow names l := by
    intro names
    rw [parseRow, parseRow, h.fields]
  rw [parseLines_append, parseLines_append]
  simp only [parseLines, h.skipped, hrow]

/-! ## White space in a text -/

section Pieces

variable {before after p q : Text} {front rest : List Text}

theorem eq_nil_of_startsLine (h : StartsLine before) (hp : pieces '\n' before = front ++ [p]) :
    p = [] ∧ front.length = before.count '\n' := by
  have hlength : front.length = before.count '\n' := by
    have hpieces := Text.length_pieces '\n' before
    rw [hp, List.length_append] at hpieces
    exact Nat.succ.inj hpieces
  refine ⟨?_, hlength⟩
  rcases List.eq_nil_or_concat before with rfl | ⟨init, c, hinit⟩
  · have hnil : ([] : List Text) ++ [[]] = front ++ [p] := hp
    exact (List.singleton_inj.1 (List.append_inj_right' hnil rfl)).symm
  · rw [List.concat_eq_append] at hinit
    subst hinit
    obtain rfl : c = '\n' := h c (by simp)
    rw [Text.pieces_append_singleton] at hp
    exact (List.singleton_inj.1 (List.append_inj_right' hp rfl)).symm

theorem blanks_of_endsLine (h : EndsLine after) (hq : pieces '\n' after = q :: rest) :
    Blanks q := by
  rcases h with rfl | ⟨more, rfl⟩ | ⟨more, rfl⟩
  · obtain ⟨rfl, -⟩ := List.cons.inj hq
    exact Text.blanks_nil
  · obtain ⟨rfl, -⟩ := List.cons.inj hq
    exact Text.blanks_nil
  · have hreturn : pieces '\n' ('\r' :: '\n' :: more) = ['\r'] :: pieces '\n' more :=
      Text.pieces_append_sep (t := ['\r']) (by decide)
    obtain ⟨rfl, -⟩ := List.cons.inj (hreturn.symm.trans hq)
    decide

/-- A margin of a text is a margin of the line in which it lies. -/
theorem lineMargin_of_margin (h : Margin before after) (hp : pieces '\n' before = front ++ [p])
    (hq : pieces '\n' after = q :: rest) : LineMargin p q := by
  have hcomma : '\n' ∉ [','] := by decide
  rcases h with hstart | hstop | hbehind | hbefore
  · exact .start (eq_nil_of_startsLine hstart hp).1
  · exact .stop (blanks_of_endsLine hstop hq)
  · obtain ⟨init, rfl⟩ := List.getLast?_eq_some_iff.1 hbehind
    obtain ⟨front', last, -, hlast⟩ := Text.pieces_append_right init hcomma
    obtain rfl := List.singleton_inj.1 (List.append_inj_right' (hp.symm.trans hlast) rfl)
    exact .behindComma rfl
  · obtain ⟨more, rfl⟩ := List.head?_eq_some_iff.1 hbefore
    obtain ⟨first, others, -, hfirst⟩ := Text.pieces_append_left hcomma more
    obtain ⟨rfl, -⟩ := List.cons.inj (hq.symm.trans hfirst)
    exact .beforeComma rfl

theorem parse_pad {blanks : Text} (hblanks : Blanks blanks) (hfeed : '\n' ∉ blanks)
    (h : Margin before after) : parse (before ++ blanks ++ after) = parse (before ++ after) := by
  obtain ⟨front, p, hp, happend⟩ := Text.exists_pieces_append '\n' before
  obtain ⟨q, rest, hq, hpadded⟩ := Text.pieces_append_left hfeed after
  rw [parse_eq_parseLines_pieces, parse_eq_parseLines_pieces, List.append_assoc,
    happend _ _ _ hpadded, happend _ _ _ hq, ← List.append_assoc]
  apply parseLines_of_alike
  exact alike_pad hblanks (lineMargin_of_margin h hp hq)

end Pieces

theorem parse_of_respaces {t u : Text} (h : Respaces t u) : parse u = parse t := by
  rcases h with ⟨hblanks, hfeed, hmargin⟩ | ⟨before, after⟩
  · exact parse_pad hblanks hfeed hmargin
  · have hreturn : Blanks ['\r'] := by decide
    have hends : Margin before ('\n' :: after) := .lineEnd (Or.inr (Or.inl ⟨after, rfl⟩))
    rw [← parse_pad hreturn (by decide) hends]
    simp

/-! ## Lines that are put in -/

theorem parseLines_succ (n : Nat) (seen ls : List Text) :
    parseLines (n + 1) seen ls = (parseLines n seen ls).mapError (·.moved fun _ => 1) := by
  induction ls generalizing n seen with
  | nil => rfl
  | cons l ls ih =>
    by_cases hskip : Skipped l
    · rw [parseLines_of_skipped hskip, parseLines_of_skipped hskip, ih]
    · cases hrow : parseRow seen l with
      | error fault =>
        rw [parseLines_of_error hskip hrow, parseLines_of_error hskip hrow]
        rfl
      | ok row =>
        rw [parseLines_of_ok hskip hrow, parseLines_of_ok hskip hrow, ih]
        cases parseLines (n + 1) (row.name :: seen) ls <;> rfl

/-- Errors are reported for lines that are there. -/
theorem line_of_parseLines {n : Nat} {seen ls : List Text} {e : ParseError}
    (h : parseLines n seen ls = .error e) : n ≤ e.line ∧ e.line < n + ls.length := by
  obtain ⟨before, l, after, rows, rfl, hline, -⟩ := parseLines_eq_error_iff.1 h
  rw [hline, List.length_append, List.length_cons]
  omega

/-- A line without a row moves down what stands below it. -/
theorem parseLines_insert {line : Text} (h : Skipped line) (n : Nat) (seen first second) :
    parseLines n seen (first ++ line :: second) =
      (parseLines n seen (first ++ second)).mapError
        (·.moved fun m => if n + first.length ≤ m then 1 else 0) := by
  rw [parseLines_append, parseLines_append]
  cases hfirst : parseLines n seen first with
  | error e =>
    have hline := (line_of_parseLines hfirst).2
    simp [Except.mapError, ParseError.moved, Nat.not_le.2 hline]
  | ok rows =>
    simp only [parseLines_of_skipped h, parseLines_succ]
    cases hsecond : parseLines (n + first.length) ((rows.map Row.name).reverse ++ seen) second with
    | ok more => rfl
    | error e =>
      have hline := (line_of_parseLines hsecond).1
      simp [Except.mapError, Except.map, ParseError.moved, hline]

/-- The same of a whole table, of which the stretches between line feeds are given. -/
theorem parse_insert {t u line : Text} {first second : List Text} (h : Skipped line)
    (ht : parse t = parseLines 1 [] (first ++ second))
    (hu : pieces '\n' u = first ++ line :: second) :
    parse u = (parse t).mapError (·.moved fun m => if first.length < m then 1 else 0) := by
  rw [parse_eq_parseLines_pieces, hu, parseLines_insert h, ht]
  simp only [Nat.add_comm 1, Nat.succ_le_iff]

theorem parse_of_inserts {k : Nat} {t u : Text} (h : Inserts k t u) :
    parse u = (parse t).mapError (·.moved fun n => if k < n then 1 else 0) := by
  rcases h with @⟨before, after, line, hstart, hskip, hfeed⟩ | ⟨hopen, hskip, hfeed⟩ |
    ⟨hstart, hskip, hfeed⟩
  · obtain ⟨front, p, hp, happend⟩ := Text.exists_pieces_append '\n' before
    obtain ⟨rfl, hlength⟩ := eq_nil_of_startsLine hstart hp
    obtain ⟨q, rest, hq⟩ := List.exists_cons_of_ne_nil (Text.pieces_ne_nil '\n' after)
    have hline : pieces '\n' (line ++ '\n' :: after) = line :: pieces '\n' after :=
      Text.pieces_append_sep hfeed
    have ht : parse (before ++ after) = parseLines 1 [] (front ++ pieces '\n' after) := by
      rw [parse_eq_parseLines_pieces, happend _ _ _ hq, List.nil_append, hq]
    rw [← hlength]
    apply parse_insert hskip ht
    rw [List.append_assoc, happend _ _ _ hline, List.nil_append]
  · have ht : parse t = parseLines 1 [] (pieces '\n' t ++ []) := by
      rw [parse_eq_parseLines_pieces, List.append_nil]
    rw [← Text.length_pieces]
    apply parse_insert hskip ht
    rw [Text.pieces_append_sep_append, Text.pieces_of_not_mem hfeed]
  · obtain ⟨front, p, hp, happend⟩ := Text.exists_pieces_append '\n' t
    obtain ⟨rfl, hlength⟩ := eq_nil_of_startsLine hstart hp
    have ht : parse t = parseLines 1 [] (front ++ []) := by
      rw [parse_eq_parseLines_pieces, hp, parseLines_append_nil, List.append_nil]
    rw [← hlength]
    apply parse_insert hskip ht
    rw [happend _ _ _ (Text.pieces_of_not_mem hfeed), List.nil_append]

/-! ## The main statement -/

/-- The layout of a table does not matter.  Whatever a text is, and whatever changes of its layout
are made one after the other, the result is read as the same rows, or refused for the same fault,
of the same line, which has moved down by the number of lines that were put in above it. -/
theorem relaid_is_read_alike {text u : Text} {above : Nat → Nat} (h : Relaid text u above) :
    parse u = (parse text).mapError (·.moved above) := by
  induction h with
  | same => cases parse text <;> rfl
  | respace _ hu ih => rw [parse_of_respaces hu, ih]
  | insert _ hu ih =>
    rw [parse_of_inserts hu, ih]
    cases parse text with
    | ok rows => rfl
    | error e => simp only [Except.mapError, ParseError.moved, Nat.add_assoc]

/-- A table that is refused for its second line.  A comment is put in above it, white space beside
a comma of the line at fault, a carriage return above it, and a line end at the end of the text. -/
theorem relaid_is_read_alike_commented :
    parse "a,1,x\nb,2\nc".toList = .error ⟨2, .fieldCount 2⟩ ∧
      ∃ above, above 2 = 1 ∧
        Relaid "a,1,x\nb,2\nc".toList "  # c,\r\na,1,x\r\nb \t,2\nc\n".toList above ∧
        parse "  # c,\r\na,1,x\r\nb \t,2\nc\n".toList = .error ⟨3, .fieldCount 2⟩ := by
  have hparse : parse "a,1,x\nb,2\nc".toList = .error ⟨2, .fieldCount 2⟩ := by rfl
  have hcomment : Inserts 0 "a,1,x\nb,2\nc".toList "  # c,\r\na,1,x\nb,2\nc".toList :=
    @Inserts.line [] _ "  # c,\r".toList (by simp [StartsLine]) (by decide) (by decide)
  have hpadded : Respaces "  # c,\r\na,1,x\nb,2\nc".toList "  # c,\r\na,1,x\nb \t,2\nc".toList :=
    @Respaces.pad "  # c,\r\na,1,x\nb".toList " \t".toList ",2\nc".toList
      (by decide) (by decide) (.beforeComma rfl)
  have hreturn : Respaces "  # c,\r\na,1,x\nb \t,2\nc".toList
      "  # c,\r\na,1,x\r\nb \t,2\nc".toList :=
    .lineEnd "  # c,\r\na,1,x".toList "b \t,2\nc".toList
  have hended : Inserts 4 "  # c,\r\na,1,x\r\nb \t,2\nc".toList
      "  # c,\r\na,1,x\r\nb \t,2\nc\n".toList :=
    @Inserts.behind "  # c,\r\na,1,x\r\nb \t,2\nc".toList []
      (by simp [StartsLine]) (by decide) (by decide)
  have hrelaid := (((Relaid.same.insert hcomment).respace hpadded).respace hreturn).insert hended
  refine ⟨hparse, _, rfl, hrelaid, ?_⟩
  rw [relaid_is_read_alike hrelaid, hparse]
  rfl

end DeviceTwin.NodeTable
