import DeviceTwin.Proofs.NodeId.SourceLines
import Mathlib.Data.List.Basic
import Mathlib.Data.List.Nodup
import Mathlib.Data.List.TakeDrop

/-!
# Reading the source text for a table

`readSource` reads source text line by line: the lines of the text itself have to stand where they
belong, and every line between them has to be of the form that its section asks for.  It knows
nothing about the rows from which the text was made.

What it finds in the text for a table are the rows, three times over (`readSource_source`), however
much a type looks like something else: every line of a section is told by how it begins, a remark
takes the rest of its line as it is, and quotes end where they should.
-/

namespace DeviceTwin.NodeTable

/-! ## What source text says -/

/-- A constant for the number of a node, with the remark in front of it. -/
structure NumberConst where
  remark : Text
  name : Text
  number : UInt32
  deriving DecidableEq, Repr

/-- A constant for the identifier of a node: its name, the name of the number it is made of, and
the namespace it is put into. -/
structure NodeConst where
  name : Text
  number : Text
  space : Text
  deriving DecidableEq, Repr

/-- An entry of the list of all rows: the value of its first text, the name of the number it refers
to, and the value of its second text. -/
structure TableEntry where
  name : Text
  number : Text
  type : Text
  deriving DecidableEq, Repr

/-- What source text says, section by section. -/
structure Reading where
  numbers : List NumberConst
  nodes : List NodeConst
  entries : List TableEntry
  deriving DecidableEq, Repr

/-- The remark that a line holds. -/
def readRemark (line : Text) : Option Text := line.dropPrefix? "    /// ".toList

/-- The name and the number that a line defines. -/
def readNumber (line : Text) : Option (Text × UInt32) := do
  let t ← line.dropPrefix? "    pub const ".toList
  let (name, t) := t.span isNamePart
  let t ← t.dropPrefix? ": NumericId = ".toList
  let (digits, t) := t.span Char.isDigit
  let n ← Numeral.parse UInt32.size digits
  if t = ";".toList then some (name, .ofNat n) else none

/-- The identifier that a line defines. -/
def readNode (line : Text) : Option NodeConst := do
  let t ← line.dropPrefix? "    pub const ".toList
  let (name, t) := t.span isNamePart
  let t ← t.dropPrefix? ": super::NodeId = super::NodeId::numeric(super::id::".toList
  let (number, t) := t.span isNamePart
  let t ← t.dropPrefix? ", ".toList
  let space ← t.dropSuffix? ");".toList
  some { name, number, space }

/-- The entry of the list of all rows that a line holds. -/
def readEntry (line : Text) : Option TableEntry := do
  let t ← line.dropPrefix? "    (".toList
  let (name, t) ← Text.Quoted.read t
  let t ← t.dropPrefix? ", id::".toList
  let (number, t) := t.span isNamePart
  let t ← t.dropPrefix? ", ".toList
  let (type, t) ← Text.Quoted.read t
  if t = "),".toList then some { name, number, type } else none

/-- Whether a line belongs to a section, and neither opens nor closes one. -/
def isIndented (line : Text) : Bool := line.head? = some ' '

/-- Reads the lines of a section, of which each has to hold something. -/
def readSection {α : Type} (read : Text → Option α) : List Text → Option (List α × List Text)
  | [] => some ([], [])
  | line :: rest =>
    if isIndented line then do
      let a ← read line
      let (others, after) ← readSection read rest
      some (a :: others, after)
    else some ([], line :: rest)

/-- Reads the section of numbers, where every constant has a remark in front of it. -/
def readNumbers : List Text → Option (List NumberConst × List Text)
  | line :: next :: rest =>
    if isIndented line then do
      let remark ← readRemark line
      let (name, number) ← readNumber next
      let (others, after) ← readNumbers rest
      some ({ remark, name, number } :: others, after)
    else some ([], line :: next :: rest)
  | lines => some ([], lines)

/-- Reads source text. -/
def readSource (t : Text) : Option Reading := do
  let lines ← (Text.pieces '\n' t).dropPrefix? sourceHead
  let (numbers, lines) ← readNumbers lines
  let lines ← lines.dropPrefix? sourceMiddle
  let (nodes, lines) ← readSection readNode lines
  let lines ← lines.dropPrefix? sourceRows
  let (entries, lines) ← readSection readEntry lines
  if lines = ["];".toList, []] then some { numbers, nodes, entries } else none

/-- The number that a name stands for: a name has to be defined once. -/
def Reading.numberOf? (x : Reading) (name : Text) : Option UInt32 :=
  match x.numbers.filter (·.name = name) with
  | [c] => some c.number
  | _ => none

/-- The list of all rows, with the numbers that its entries refer to. -/
def Reading.table? (x : Reading) : Option (List (Text × UInt32 × Text)) :=
  x.entries.mapM fun e => (x.numberOf? e.number).map fun n => (e.name, n, e.type)

/-! ## Lines -/

theorem dropPrefix?_append {α : Type} [BEq α] [LawfulBEq α] (a b : List α) :
    (a ++ b).dropPrefix? a = some b :=
  List.dropPrefix?_append_of_beq b (by simp)

theorem dropSuffix?_append (a b : Text) : (a ++ b).dropSuffix? b = some a :=
  List.dropSuffix?_eq_some_iff.2 ⟨b, rfl, by simp⟩

theorem span_append {p : Char → Bool} {word rest : Text} (hword : ∀ c ∈ word, p c = true)
    (hrest : ∀ c ∈ rest.head?, p c = false) : (word ++ rest).span p = (word, rest) := by
  have htake : rest.takeWhile p = [] := by
    cases rest with
    | nil => rfl
    | cons c rest => simp [hrest c (by simp)]
  have hdrop : rest.dropWhile p = rest := by
    cases rest with
    | nil => rfl
    | cons c rest => simp [hrest c (by simp)]
  rw [List.span_eq_takeWhile_dropWhile, List.takeWhile_append_of_pos hword,
    List.dropWhile_append_of_pos hword, htake, hdrop, List.append_nil]

theorem readRemark_append (type : Text) : readRemark ("    /// ".toList ++ type) = some type :=
  dropPrefix?_append _ _

section Lines

variable {r : Row} (h : isName r.name = true)

include h

theorem readNumber_line :
    readNumber ("    pub const ".toList ++ r.name ++ ": NumericId = ".toList ++
      Numeral.render r.number.toNat ++ ";".toList) = some (r.name, r.number) := by
  have hname : (r.name ++ (": NumericId = ".toList ++
      (Numeral.render r.number.toNat ++ ";".toList))).span isNamePart = (r.name, _) :=
    span_append (fun c => isNamePart_of_mem h) (by simp [isNamePart])
  have hdigits : (Numeral.render r.number.toNat ++ ";".toList).span Char.isDigit =
      (Numeral.render r.number.toNat, ";".toList) :=
    span_append (fun c => Numeral.isDigit_of_mem_render) (by simp)
  have hnumber : Numeral.parse UInt32.size (Numeral.render r.number.toNat) = some r.number.toNat :=
    Numeral.parse_render r.number.toNat_lt
  unfold readNumber
  simp only [List.append_assoc, dropPrefix?_append, hname, hdigits, hnumber, Option.bind_eq_bind,
    Option.bind_some, if_true, UInt32.ofNat_toNat]

theorem readNode_nodeLine (space : Text) :
    readNode (r.nodeLine space) = some ⟨r.name, r.name, space⟩ := by
  have hname : ∀ {rest : Text}, (∀ c ∈ rest.head?, isNamePart c = false) →
      (r.name ++ rest).span isNamePart = (r.name, rest) :=
    span_append fun c => isNamePart_of_mem h
  have hkind : (r.name ++ (": super::NodeId = super::NodeId::numeric(super::id::".toList ++
      (r.name ++ (", ".toList ++ (space ++ ");".toList))))).span isNamePart = (r.name, _) :=
    hname (by simp [isNamePart])
  have hcomma : (r.name ++ (", ".toList ++ (space ++ ");".toList))).span isNamePart =
      (r.name, _) := hname (by simp [isNamePart])
  unfold readNode Row.nodeLine
  simp only [List.append_assoc, dropPrefix?_append, hkind, hcomma, dropSuffix?_append,
    Option.bind_eq_bind, Option.bind_some]

theorem readEntry_tableLine : readEntry r.tableLine = some ⟨r.name, r.name, r.type⟩ := by
  have hcomma : (r.name ++ (", ".toList ++ (Text.quote r.type ++ "),".toList))).span isNamePart =
      (r.name, _) := span_append (fun c => isNamePart_of_mem h) (by simp [isNamePart])
  unfold readEntry Row.tableLine
  simp only [List.append_assoc, dropPrefix?_append, Text.Quoted.read_quote, hcomma,
    Option.bind_eq_bind, Option.bind_some, if_true]

end Lines

/-! ## Sections -/

theorem readSection_map {α β : Type} {read : Text → Option α} {line : β → Text} {f : β → α}
    {bs : List β} (hlines : ∀ b ∈ bs, isIndented (line b) = true ∧ read (line b) = some (f b))
    {after : List Text} (hafter : ∀ l ∈ after.head?, isIndented l = false) :
    readSection read (bs.map line ++ after) = some (bs.map f, after) := by
  induction bs with
  | nil =>
    cases after with
    | nil => rfl
    | cons l after => simp [readSection, hafter l (by simp)]
  | cons b bs ih =>
    obtain ⟨hindented, hread⟩ := hlines b List.mem_cons_self
    have hothers := ih fun x hx => hlines x (List.mem_cons_of_mem _ hx)
    simp only [List.map_cons, List.cons_append, readSection, hindented, if_true, hread, hothers,
      Option.bind_eq_bind, Option.bind_some]

theorem readNumbers_flatMap {rows : List Row} (hnames : ∀ r ∈ rows, isName r.name = true)
    {after : List Text} (hafter : ∀ l ∈ after.head?, isIndented l = false) :
    readNumbers (rows.flatMap Row.numberLines ++ after) =
      some (rows.map fun r => ⟨r.type, r.name, r.number⟩, after) := by
  induction rows with
  | nil =>
    match after with
    | [] => rfl
    | [_] => rfl
    | l :: _ :: _ => simp [readNumbers, hafter l (by simp)]
  | cons r rows ih =>
    have hindented : isIndented ("    /// ".toList ++ r.type) = true := rfl
    have hlines : ∀ rest, r.numberLines ++ rest = ("    /// ".toList ++ r.type) :: (_ :: rest) :=
      fun _ => rfl
    have hread := readNumber_line (hnames r List.mem_cons_self)
    have hothers := ih fun x hx => hnames x (List.mem_cons_of_mem _ hx)
    rw [List.flatMap_cons, List.append_assoc, hlines, readNumbers, if_pos hindented]
    simp only [readRemark_append, hread, hothers, Option.bind_eq_bind, Option.bind_some,
      List.map_cons]

theorem mapM_eq_some_map {α β : Type} {f : α → Option β} {g : α → β} {as : List α}
    (h : ∀ a ∈ as, f a = some (g a)) : as.mapM f = some (as.map g) := by
  induction as with
  | nil => rfl
  | cons a as ih =>
    have hothers := ih fun x hx => h x (List.mem_cons_of_mem _ hx)
    simp [List.mapM_cons, h a List.mem_cons_self, hothers]

/-! ## The whole text -/

section Accepted

variable {rows : List Row} {space : Text}

/-- What the source text for rows says. -/
def reading (rows : List Row) (space : Text) : Reading where
  numbers := rows.map fun r => ⟨r.type, r.name, r.number⟩
  nodes := rows.map fun r => ⟨r.name, r.name, space⟩
  entries := rows.map fun r => ⟨r.name, r.name, r.type⟩

theorem readSource_source (h : Accepted rows) (hspace : '\n' ∉ space) :
    readSource (source rows space) = some (reading rows space) := by
  have hnumbers : ∀ after : List Text,
      readNumbers (rows.flatMap Row.numberLines ++ (sourceMiddle ++ after)) = some (_, _) :=
    fun after => readNumbers_flatMap h.named (by simp [sourceMiddle, isIndented])
  have hnodes : ∀ after : List Text,
      readSection readNode (rows.map (Row.nodeLine space) ++ (sourceRows ++ after)) =
        some (rows.map fun r => ⟨r.name, r.name, space⟩, sourceRows ++ after) :=
    fun after => readSection_map
      (fun r hr => ⟨rfl, readNode_nodeLine (h.named r hr) space⟩)
      (by simp [sourceRows, isIndented])
  have hentries : readSection readEntry (rows.map Row.tableLine ++ ["];".toList, []]) =
      some (rows.map fun r => ⟨r.name, r.name, r.type⟩, ["];".toList, []]) :=
    readSection_map (fun r hr => ⟨rfl, readEntry_tableLine (h.named r hr)⟩)
      (by simp [isIndented])
  rw [readSource, pieces_source h hspace]
  simp only [sourceLines, List.append_assoc, dropPrefix?_append, hnumbers, hnodes,
    List.cons_append, List.nil_append, hentries, Option.bind_eq_bind, Option.bind_some, if_true,
    reading]

/-- A constant is found by its name if no other has that name. -/
theorem filter_name {cs : List NumberConst} (h : (cs.map NumberConst.name).Nodup)
    {c : NumberConst} (hc : c ∈ cs) : cs.filter (·.name = c.name) = [c] := by
  induction cs with
  | nil => simp at hc
  | cons d cs ih =>
    obtain ⟨hfresh, hrest⟩ := List.nodup_cons.1 h
    rcases List.mem_cons.1 hc with rfl | hc
    · have hnone : cs.filter (·.name = c.name) = [] := by
        refine List.filter_eq_nil_iff.2 fun x hx heq => hfresh ?_
        exact List.mem_map.2 ⟨x, hx, of_decide_eq_true heq⟩
      rw [List.filter_cons_of_pos (by simp), hnone]
    · have hne : d.name ≠ c.name := fun heq => hfresh (heq ▸ List.mem_map_of_mem hc)
      rw [List.filter_cons_of_neg (by simp [hne]), ih hrest hc]

theorem numberOf?_reading (h : Accepted rows) {r : Row} (hr : r ∈ rows) :
    (reading rows space).numberOf? r.name = some r.number := by
  have hnames : ((reading rows space).numbers.map NumberConst.name).Nodup := by
    simpa [reading, Function.comp_def] using h.distinct
  have hmem : (⟨r.type, r.name, r.number⟩ : NumberConst) ∈ (reading rows space).numbers :=
    List.mem_map.2 ⟨r, hr, rfl⟩
  rw [Reading.numberOf?, filter_name hnames hmem]

theorem table?_reading (h : Accepted rows) :
    (reading rows space).table? = some (rows.map fun r => (r.name, r.number, r.type)) := by
  have hnumber : ∀ r ∈ rows, (reading rows space).numberOf? r.name = some r.number :=
    fun r hr => numberOf?_reading h hr
  have hentries : (reading rows space).entries = rows.map fun r => ⟨r.name, r.name, r.type⟩ := rfl
  rw [Reading.table?, hentries, List.mapM_map]
  exact mapM_eq_some_map fun r hr => by simp [hnumber r hr]

theorem eq_of_reading_eq {rows' : List Row} {space' : Text}
    (h : reading rows' space' = reading rows space) : rows' = rows := by
  have hnumbers := congrArg Reading.numbers h
  refine List.map_injective_iff.2 ?_ hnumbers
  rintro ⟨⟩ ⟨⟩ heq
  simp_all

/-- The source text for a table says what the table says.  Line by line it gives back type, name
and number of every row, then its identifier, then the row itself, in the order of the table; the
list of all rows, with its entries looked up among the numbers, is the table; and no two tables
have the same source text. -/
theorem source_reads_back {text : Text} (h : parse text = .ok rows) (hspace : '\n' ∉ space) :
    (∃ x : Reading, readSource (source rows space) = some x ∧
      x.numbers = rows.map (fun r => { remark := r.type, name := r.name, number := r.number }) ∧
      x.nodes = rows.map (fun r => { name := r.name, number := r.name, space := space }) ∧
      x.entries = rows.map (fun r => { name := r.name, number := r.name, type := r.type }) ∧
      x.table? = some (rows.map fun r => (r.name, r.number, r.type))) ∧
    ∀ (text' space' : Text) (rows' : List Row), parse text' = .ok rows' → '\n' ∉ space' →
      source rows' space' = source rows space → rows' = rows := by
  have haccepted := accepted_of_parse h
  have hread := readSource_source haccepted hspace
  constructor
  · exact ⟨reading rows space, hread, rfl, rfl, rfl, table?_reading haccepted⟩
  · intro text' space' rows' h' hspace' heq
    have hread' := readSource_source (accepted_of_parse h') hspace'
    rw [heq, hread] at hread'
    exact eq_of_reading_eq (Option.some.inj hread').symm

/-- Types that look like the end of the list, and like the end of an entry. -/
theorem source_reads_back_disguised :
    parse "a,1,];\nb,2,\\\")\n".toList =
        .ok [⟨['a'], 1, [']', ';']⟩, ⟨['b'], 2, ['\\', '"', ')']⟩] ∧
      ∃ x, readSource (source [⟨['a'], 1, [']', ';']⟩, ⟨['b'], 2, ['\\', '"', ')']⟩] ['n']) =
          some x ∧
        x.table? = some [(['a'], 1, [']', ';']), (['b'], 2, ['\\', '"', ')'])] := by
  have hparse : parse "a,1,];\nb,2,\\\")\n".toList =
      .ok [⟨['a'], 1, [']', ';']⟩, ⟨['b'], 2, ['\\', '"', ')']⟩] := rfl
  obtain ⟨⟨x, hread, -, -, -, htable⟩, -⟩ :=
    source_reads_back hparse (by decide : '\n' ∉ ['n'])
  exact ⟨hparse, x, hread, htable⟩

end Accepted

end DeviceTwin.NodeTable
