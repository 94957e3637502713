import DeviceTwin.NodeId.Table
import DeviceTwin.Proofs.Text.Numeral
import DeviceTwin.Proofs.Text.Trim
import Mathlib.Data.List.Forall2

/-!
# What a line of a table says

A line of a table is blank, or a comment (`Skipped`), or it gives a row (`Gives`), or something is
wrong with it (`Offends`).  These are said here of the characters of the line and of the names
before it, without the reader, and shown to be what the reader finds: `isSkipped_iff`,
`parseRow_eq_ok_iff` and `parseRow_eq_error_iff`.  All of it is settled by the line without the
blanks at its ends, and in particular without a carriage return before the end of the line.

Lines one after the other are accepted if they give rows with different names
(`parseLines_eq_ok_iff`), and are refused for the first of them that offends after the rows before
it (`parseLines_eq_error_iff`).
-/

namespace DeviceTwin.NodeTable

open Text (Blanks IsTrimmed)

/-! ## Lines without a row -/

/-- A line that is blank, or whose first character that is not blank is the mark of a comment. -/
def Skipped (line : Text) : Prop :=
  Blanks line ∨ ∃ indent rest, Blanks indent ∧ line = indent ++ '#' :: rest

theorem isSkipped_iff {line : Text} : isSkipped line = true ↔ Skipped line := by
  unfold isSkipped
  split
  · next hnil => exact iff_of_true rfl (Or.inl (Text.trim_eq_nil_iff.1 hnil))
  · next c rest hcons =>
    obtain ⟨a, b, ha, -, hline⟩ := Text.exists_blanks_trim line
    rw [hcons, List.append_assoc, List.cons_append] at hline
    have hc : Text.isBlank c = false :=
      (hcons ▸ Text.isTrimmed_trim line).1 c rfl
    rw [decide_eq_true_iff]
    constructor
    · rintro rfl
      exact Or.inr ⟨a, rest ++ b, ha, hline⟩
    · rintro (hblank | ⟨indent, rest', hindent, hline'⟩)
      · simp [Text.trim_of_blanks hblank] at hcons
      · -- Both ways of writing the line start with the same character behind the blanks.
        have hstart := congrArg Text.trimStart (hline.symm.trans hline')
        rw [Text.trimStart_append ha, Text.trimStart_append hindent] at hstart
        simp only [Text.trimStart, List.dropWhile, hc, show Text.isBlank '#' = false by decide]
          at hstart
        exact (List.cons.inj hstart).1

instance (line : Text) : Decidable (Skipped line) := decidable_of_iff _ isSkipped_iff

/-! ## Fields -/

/-- A letter or an underscore, and then letters, digits and underscores; neither an underscore
alone nor a keyword. -/
def IsIdentifier (name : Text) : Prop :=
  (∃ first rest, name = first :: rest ∧ (first.isAlpha = true ∨ first = '_') ∧
    ∀ c ∈ rest, c.isAlphanum = true ∨ c = '_') ∧ name ≠ ['_'] ∧ name ∉ keywords

theorem isName_iff {name : Text} : isName name = true ↔ IsIdentifier name := by
  cases name with
  | nil => simp [isName, IsIdentifier]
  | cons first rest =>
    simp [isName, IsIdentifier, isNameStart, isNamePart, and_assoc]

instance (name : Text) : Decidable (IsIdentifier name) := decidable_of_iff _ isName_iff

/-- A line has three fields between commas, with blanks around them at will. -/
def Holds (line name number type : Text) : Prop :=
  ∃ a b c, line = a ++ ',' :: (b ++ ',' :: c) ∧ ',' ∉ a ∧ ',' ∉ b ∧ ',' ∉ c ∧
    Text.trim a = name ∧ Text.trim b = number ∧ Text.trim c = type

theorem fields_eq (line : Text) : fields line = (Text.pieces ',' line).map Text.trim :=
  Text.map_trim_pieces_trim (by decide) line

theorem length_fields (line : Text) : (fields line).length = line.count ',' + 1 := by
  rw [fields_eq, List.length_map, Text.length_pieces]

theorem fields_eq_iff {line name number type : Text} :
    fields line = [name, number, type] ↔ Holds line name number type := by
  rw [fields_eq]
  constructor
  · intro h
    obtain ⟨a, t₁, h₁, ha, ht₁⟩ := List.map_eq_cons_iff.1 h
    obtain ⟨b, t₂, h₂, hb, ht₂⟩ := List.map_eq_cons_iff.1 ht₁
    obtain ⟨c, t₃, h₃, hc, ht₃⟩ := List.map_eq_cons_iff.1 ht₂
    obtain rfl := List.map_eq_nil_iff.1 ht₃
    have hpieces : Text.pieces ',' line = [a, b, c] := by rw [h₁, h₂, h₃]
    have hnot : ∀ p ∈ [a, b, c], ',' ∉ p :=
      fun p hp => Text.sep_not_mem_of_mem_pieces (hpieces ▸ hp)
    refine ⟨a, b, c, ?_, hnot a (by simp), hnot b (by simp), hnot c (by simp), ha, hb, hc⟩
    rw [← Text.join_pieces ',' line, hpieces]
    rfl
  · rintro ⟨a, b, c, rfl, ha, hb, hc, rfl, rfl, rfl⟩
    rw [Text.pieces_append_sep ha, Text.pieces_append_sep hb, Text.pieces_of_not_mem hc]
    rfl

theorem two_commas_of_holds {line name number type : Text} (h : Holds line name number type) :
    line.count ',' = 2 := by
  have hlength := length_fields line
  rw [fields_eq_iff.2 h] at hlength
  exact (Nat.succ.inj hlength).symm

theorem exists_holds {line : Text} (h : line.count ',' = 2) :
    ∃ name number type, Holds line name number type := by
  have hlength := length_fields line
  rw [h] at hlength
  obtain ⟨name, number, type, hfields⟩ := List.length_eq_three.1 hlength
  exact ⟨name, number, type, fields_eq_iff.1 hfields⟩

/-! ## Rows and faults -/

/-- What a line gives: a name, a numeral for a number below `2 ^ 32`, and a type. -/
def Gives (line : Text) (row : Row) : Prop :=
  IsIdentifier row.name ∧
    ∃ number, Holds line row.name number row.type ∧ Numeral.Denotes number row.number.toNat

/-- A text is a numeral of a number below `2 ^ 32`. -/
def IsNumber (value : Text) : Prop := ∃ n < UInt32.size, Numeral.Denotes value n

/-- What is wrong with a line after rows with the given names.  A fault is only looked for where
those before it have been ruled out. -/
inductive Offends (names : List Text) (line : Text) : Fault → Prop where
  | fieldCount (h : line.count ',' ≠ 2) : Offends names line (.fieldCount (line.count ',' + 1))
  | invalidName {name number type : Text} (h : Holds line name number type)
      (hname : ¬ IsIdentifier name) : Offends names line (.invalidName name)
  | invalidNumber {name number type : Text} (h : Holds line name number type)
      (hname : IsIdentifier name) (hnumber : ¬ IsNumber number) :
      Offends names line (.invalidNumber number)
  | duplicateName {name number type : Text} (h : Holds line name number type)
      (hname : IsIdentifier name) (hnumber : IsNumber number) (hold : name ∈ names) :
      Offends names line (.duplicateName name)

section Row

variable {seen : List Text} {line name number type : Text}

theorem parseRow_of_count (h : line.count ',' ≠ 2) :
    parseRow seen line = .error (.fieldCount (line.count ',' + 1)) := by
  unfold parseRow
  split
  · next hfields => exact absurd (two_commas_of_holds (fields_eq_iff.1 hfields)) h
  · rw [length_fields]

/-- What the reader does with three fields. -/
theorem parseRow_of_holds (h : Holds line name number type) :
    parseRow seen line =
      if ¬ IsIdentifier name then .error (.invalidName name)
      else match Numeral.parse UInt32.size number with
        | none => .error (.invalidNumber number)
        | some n =>
          if name ∈ seen then .error (.duplicateName name)
          else .ok { name, number := .ofNat n, type } := by
  have hfields := fields_eq_iff.2 h
  by_cases hname : isName name = true
  · have hid := isName_iff.1 hname
    cases hnumber : Numeral.parse UInt32.size number with
    | none => simp [parseRow, hfields, hname, hid, hnumber]
    | some n => simp [parseRow, hfields, hname, hid, hnumber]
  · have hid : ¬ IsIdentifier name := fun hid => hname (isName_iff.2 hid)
    simp [parseRow, hfields, hname, hid]

theorem parse_eq_none_of_not_isNumber (h : ¬ IsNumber number) :
    Numeral.parse UInt32.size number = none := Numeral.parse_eq_none_iff.2 h

theorem parseRow_of_offends {fault : Fault} (h : Offends seen line fault) :
    parseRow seen line = .error fault := by
  cases h with
  | fieldCount h => exact parseRow_of_count h
  | invalidName h hname => rw [parseRow_of_holds h, if_pos hname]
  | invalidNumber h hname hnumber =>
    rw [parseRow_of_holds h, if_neg (not_not_intro hname), parse_eq_none_of_not_isNumber hnumber]
  | duplicateName h hname hnumber hold =>
    obtain ⟨n, hn, hdenotes⟩ := hnumber
    rw [parseRow_of_holds h, if_neg (not_not_intro hname),
      Numeral.parse_eq_some_iff.2 ⟨hn, hdenotes⟩]
    exact if_pos hold

theorem parseRow_of_gives {row : Row} (h : Gives line row) (hnew : row.name ∉ seen) :
    parseRow seen line = .ok row := by
  obtain ⟨hname, number, hholds, hdenotes⟩ := h
  rw [parseRow_of_holds hholds, if_neg (not_not_intro hname),
    Numeral.parse_eq_some_iff.2 ⟨row.number.toNat_lt, hdenotes⟩]
  simp [hnew]

/-- A line gives a row with a new name, or something is wrong with it. -/
theorem gives_or_offends (seen : List Text) (line : Text) :
    (∃ row, Gives line row ∧ row.name ∉ seen) ∨ ∃ fault, Offends seen line fault := by
  by_cases hcount : line.count ',' = 2
  · obtain ⟨name, number, type, h⟩ := exists_holds hcount
    by_cases hname : IsIdentifier name
    · by_cases hnumber : IsNumber number
      · by_cases hold : name ∈ seen
        · exact Or.inr ⟨_, .duplicateName h hname hnumber hold⟩
        · obtain ⟨n, hn, hdenotes⟩ := hnumber
          have hsame : (UInt32.ofNat n).toNat = n := UInt32.toNat_ofNat_of_lt hn
          exact Or.inl ⟨⟨name, .ofNat n, type⟩, ⟨hname, number, h, hsame.symm ▸ hdenotes⟩, hold⟩
      · exact Or.inr ⟨_, .invalidNumber h hname hnumber⟩
    · exact Or.inr ⟨_, .invalidName h hname⟩
  · exact Or.inr ⟨_, .fieldCount hcount⟩

theorem parseRow_eq_error_iff {fault : Fault} :
    parseRow seen line = .error fault ↔ Offends seen line fault := by
  refine ⟨fun h => ?_, parseRow_of_offends⟩
  rcases gives_or_offends seen line with ⟨row, hgives, hnew⟩ | ⟨other, hother⟩
  · simp [parseRow_of_gives hgives hnew] at h
  · rw [parseRow_of_offends hother] at h
    exact Except.error.inj h ▸ hother

theorem parseRow_eq_ok_iff {row : Row} :
    parseRow seen line = .ok row ↔ Gives line row ∧ row.name ∉ seen := by
  refine ⟨fun h => ?_, fun h => parseRow_of_gives h.1 h.2⟩
  rcases gives_or_offends seen line with ⟨other, hgives, hnew⟩ | ⟨fault, hfault⟩
  · rw [parseRow_of_gives hgives hnew] at h
    exact Except.ok.inj h ▸ ⟨hgives, hnew⟩
  · simp [parseRow_of_offends hfault] at h

end Row

/-! ## Lines one after the other -/

section Lines

variable {n : Nat} {seen : List Text} {l : Text} {rest first second : List Text}

theorem parseLines_of_skipped (h : Skipped l) :
    parseLines n seen (l :: rest) = parseLines (n + 1) seen rest := by
  rw [parseLines, if_pos (isSkipped_iff.2 h)]

theorem parseLines_of_error {fault : Fault} (h : ¬ Skipped l)
    (hrow : parseRow seen l = .error fault) :
    parseLines n seen (l :: rest) = .error ⟨n, fault⟩ := by
  rw [parseLines, if_neg (mt isSkipped_iff.1 h), hrow]

theorem parseLines_of_ok {row : Row} (h : ¬ Skipped l) (hrow : parseRow seen l = .ok row) :
    parseLines n seen (l :: rest) =
      (parseLines (n + 1) (row.name :: seen) rest).map (row :: ·) := by
  rw [parseLines, if_neg (mt isSkipped_iff.1 h), hrow]

/-- Lines after others are read with the names of those. -/
theorem parseLines_append (n : Nat) (seen first second : List Text) :
    parseLines n seen (first ++ second) =
      match parseLines n seen first with
      | .error e => .error e
      | .ok rows =>
        (parseLines (n + first.length) ((rows.map Row.name).reverse ++ seen) second).map
          (rows ++ ·) := by
  induction first generalizing n seen with
  | nil =>
    change parseLines n seen second = (parseLines n seen second).map fun rows => rows
    cases parseLines n seen second <;> rfl
  | cons l first ih =>
    have hlength : n + (l :: first).length = n + 1 + first.length := by
      rw [List.length_cons]
      omega
    rw [List.cons_append, hlength]
    by_cases hskip : Skipped l
    · rw [parseLines_of_skipped hskip, parseLines_of_skipped hskip, ih]
    · cases hrow : parseRow seen l with
      | error fault => rw [parseLines_of_error hskip hrow, parseLines_of_error hskip hrow]
      | ok row =>
        rw [parseLines_of_ok hskip hrow, parseLines_of_ok hskip hrow, ih]
        cases parseLines (n + 1) (row.name :: seen) first with
        | error e => rfl
        | ok rows =>
          simp only [Except.map, List.map_cons, List.reverse_cons, List.append_assoc,
            List.singleton_append]
          cases parseLines (n + 1 + first.length) _ second <;> rfl

/-- Lines are accepted if all of them give rows, whose names are new and differ. -/
theorem parseLines_eq_ok_iff {ls : List Text} {rows : List Row} :
    parseLines n seen ls = .ok rows ↔
      List.Forall₂ Gives (ls.filter (¬ Skipped ·)) rows ∧ (rows.map Row.name).Nodup ∧
        ∀ r ∈ rows, r.name ∉ seen := by
  induction ls generalizing n seen rows with
  | nil =>
    rw [parseLines, List.filter_nil, List.forall₂_nil_left_iff, Except.ok.injEq]
    constructor
    · rintro rfl
      exact ⟨rfl, List.nodup_nil, nofun⟩
    · rintro ⟨rfl, -⟩
      rfl
  | cons l ls ih =>
    by_cases hskip : Skipped l
    · rw [parseLines_of_skipped hskip, ih, List.filter_cons_of_neg (by simpa using hskip)]
    · rw [List.filter_cons_of_pos (by simpa using hskip), List.forall₂_cons_left_iff]
      cases hrow : parseRow seen l with
      | error fault =>
        rw [parseLines_of_error hskip hrow]
        refine iff_of_false nofun ?_
        rintro ⟨⟨row, others, hgives, -, rfl⟩, -, hnew⟩
        simp [parseRow_of_gives hgives (hnew row List.mem_cons_self)] at hrow
      | ok row =>
        obtain ⟨hgives, hnew⟩ := parseRow_eq_ok_iff.1 hrow
        rw [parseLines_of_ok hskip hrow]
        constructor
        · intro h
          cases hothers : parseLines (n + 1) (row.name :: seen) ls with
          | error e => simp [hothers, Except.map] at h
          | ok others =>
            rw [hothers] at h
            obtain rfl := Except.ok.inj h
            obtain ⟨hall, hnodup, hfresh⟩ := ih.1 hothers
            refine ⟨⟨row, others, hgives, hall, rfl⟩, List.nodup_cons.2 ⟨?_, hnodup⟩,
              List.forall_mem_cons.2 ⟨hnew, ?_⟩⟩
            · intro hmem
              obtain ⟨r, hr, heq⟩ := List.mem_map.1 hmem
              exact hfresh r hr (heq ▸ List.mem_cons_self)
            · exact fun r hr hmem => hfresh r hr (List.mem_cons_of_mem _ hmem)
        · rintro ⟨⟨first, others, hfirst, hall, rfl⟩, hnodup, hfresh⟩
          -- A line that gives a row gives no other one.
          have hsame := parseRow_of_gives hfirst (hfresh first List.mem_cons_self)
          obtain rfl : row = first := Except.ok.inj (hrow.symm.trans hsame)
          obtain ⟨hfirst, hnodup⟩ := List.nodup_cons.1 hnodup
          have hothers : parseLines (n + 1) (row.name :: seen) ls = .ok others := by
            refine ih.2 ⟨hall, hnodup, fun r hr hmem => ?_⟩
            rcases List.mem_cons.1 hmem with heq | hmem
            · exact hfirst (heq ▸ List.mem_map_of_mem hr)
            · exact hfresh r (List.mem_cons_of_mem _ hr) hmem
          rw [hothers]
          rfl

theorem exists_line_of_mem {ls : List Text} {rows : List Row} (h : List.Forall₂ Gives ls rows)
    {row : Row} (hrow : row ∈ rows) : ∃ l ∈ ls, Gives l row := by
  induction h with
  | nil => cases hrow
  | @cons l first ls rows hfirst hrest ih =>
    rcases List.mem_cons.1 hrow with rfl | hrow
    · exact ⟨l, List.mem_cons_self, hfirst⟩
    · obtain ⟨l', hl', hgives⟩ := ih hrow
      exact ⟨l', List.mem_cons_of_mem _ hl', hgives⟩

theorem Offends.congr {names : List Text} {fault : Fault} (h : Offends seen l fault)
    (hsame : ∀ name, name ∈ seen ↔ name ∈ names) : Offends names l fault := by
  cases h with
  | fieldCount h => exact .fieldCount h
  | invalidName h hname => exact .invalidName h hname
  | invalidNumber h hname hnumber => exact .invalidNumber h hname hnumber
  | duplicateName h hname hnumber hold => exact .duplicateName h hname hnumber ((hsame _).1 hold)

/-- Lines are refused for the first of them that offends after the rows before it. -/
theorem parseLines_eq_error_iff {ls : List Text} {e : ParseError} :
    parseLines n seen ls = .error e ↔ ∃ before l after rows, ls = before ++ l :: after ∧
      e.line = n + before.length ∧ parseLines n seen before = .ok rows ∧ ¬ Skipped l ∧
        Offends (rows.map Row.name ++ seen) l e.fault := by
  constructor
  · intro h
    induction ls generalizing n seen with
    | nil => cases h
    | cons l ls ih =>
      by_cases hskip : Skipped l
      · rw [parseLines_of_skipped hskip] at h
        obtain ⟨before, l', after, rows, rfl, hline, hbefore, hrest⟩ := ih h
        refine ⟨l :: before, l', after, rows, rfl, ?_, ?_, hrest⟩
        · rw [hline, List.length_cons]
          omega
        · rw [parseLines_of_skipped hskip, hbefore]
      · cases hrow : parseRow seen l with
        | error fault =>
          rw [parseLines_of_error hskip hrow] at h
          obtain rfl := Except.error.inj h
          exact ⟨[], l, ls, [], rfl, rfl, rfl, hskip, parseRow_eq_error_iff.1 hrow⟩
        | ok row =>
          rw [parseLines_of_ok hskip hrow] at h
          cases hothers : parseLines (n + 1) (row.name :: seen) ls with
          | ok others => simp [hothers, Except.map] at h
          | error e' =>
            rw [hothers] at h
            obtain rfl := Except.error.inj h
            obtain ⟨before, l', after, rows, rfl, hline, hbefore, hskip', hoffends⟩ := ih hothers
            refine ⟨l :: before, l', after, row :: rows, rfl, ?_, ?_, hskip', ?_⟩
            · rw [hline, List.length_cons]
              omega
            · rw [parseLines_of_ok hskip hrow, hbefore]
              rfl
            · exact hoffends.congr fun name => by simp [or_left_comm]
  · rintro ⟨before, l, after, rows, rfl, hline, hbefore, hskip, hoffends⟩
    rw [parseLines_append, hbefore]
    have hseen : Offends ((rows.map Row.name).reverse ++ seen) l e.fault :=
      hoffends.congr fun name => by simp
    have hrow := parseRow_of_offends hseen
    simp only [parseLines_of_error hskip hrow, Except.map, ← hline]

/-! ### Line ends do not matter -/

theorem isSkipped_chomp (l : Text) : isSkipped (Text.chomp l) = isSkipped l := by
  rw [isSkipped, isSkipped, Text.trim_chomp]

theorem parseRow_chomp (seen : List Text) (l : Text) :
    parseRow seen (Text.chomp l) = parseRow seen l := by
  rw [parseRow, parseRow, fields, fields, Text.trim_chomp]

theorem parseLines_map_chomp (n : Nat) (seen ls : List Text) :
    parseLines n seen (ls.map Text.chomp) = parseLines n seen ls := by
  induction ls generalizing n seen with
  | nil => rfl
  | cons l ls ih =>
    rw [List.map_cons, parseLines, parseLines, isSkipped_chomp, parseRow_chomp]
    simp only [ih]

/-- A blank line at the end adds nothing. -/
theorem parseLines_append_nil (n : Nat) (seen ls : List Text) :
    parseLines n seen (ls ++ [[]]) = parseLines n seen ls := by
  rw [parseLines_append]
  cases parseLines n seen ls with
  | error e => rfl
  | ok rows =>
    change (parseLines _ _ [[]]).map (rows ++ ·) = .ok rows
    rw [parseLines_of_skipped (Or.inl Text.blanks_nil), parseLines, Except.map, List.append_nil]

/-- A table may be read by the stretches between its line feeds. -/
theorem parse_eq_parseLines_pieces (text : Text) :
    parse text = parseLines 1 [] (Text.pieces '\n' text) := by
  rcases List.eq_nil_or_concat (Text.pieces '\n' text) with hnil | ⟨ended, last, hpieces⟩
  · exact absurd hnil (Text.pieces_ne_nil '\n' text)
  · rw [List.concat_eq_append] at hpieces
    rw [parse, Text.lines, hpieces, Text.linesOfPieces_append]
    by_cases hlast : last = []
    · rw [if_pos hlast, hlast, List.append_nil, parseLines_append_nil, parseLines_map_chomp]
    · rw [if_neg hlast, parseLines_append, parseLines_append, parseLines_map_chomp,
        List.length_map]

theorem parse_unlines {ls : List Text} (h : ∀ l ∈ ls, '\n' ∉ l) :
    parse (Text.unlines ls) = parseLines 1 [] ls := by
  rw [parse_eq_parseLines_pieces, Text.pieces_unlines h, parseLines_append_nil]

end Lines

end DeviceTwin.NodeTable
