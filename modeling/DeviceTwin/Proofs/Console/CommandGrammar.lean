import DeviceTwin.Console.Command
import DeviceTwin.Proofs.Text.Trim
import Mathlib.Data.List.Forall2

/-!
# The grammar of commands

What a line asks for is laid down by a grammar: white space, a name of the command in any mixture of
capital and small letters, behind the name of a command that takes an argument white space and the
argument, and white space (`Asks`).  `parseLine_iff_grammar` says that exactly these lines are read
as the command, and what every other line is: all white space, or refused, with its first word.

Only the letters of ASCII have two cases here (`SameLetter`).  The reader compares names in small
letters, and the grammar character by character; `lower_eq_iff` joins the two.  The other half of
the argument is about white space: whatever stands around it, the first word and what follows it
are found (`FirstWord.parseLine_eq`).
-/

namespace DeviceTwin

namespace Text

/-! ## Letters of either case -/

/-- Two characters are the same, or one is a capital letter of ASCII and the other its small
form. -/
def SameLetter (a b : Char) : Prop :=
  a = b ∨ (a.isUpper = true ∧ b.toNat = a.toNat + 32) ∨
    b.isUpper = true ∧ a.toNat = b.toNat + 32

theorem isUpper_iff {c : Char} : c.isUpper = true ↔ 65 ≤ c.toNat ∧ c.toNat ≤ 90 := by
  have hrange : c.isUpper = true ↔ 65 ≤ c.val ∧ c.val ≤ 90 := decide_eq_true_iff
  rw [hrange, UInt32.le_iff_toNat_le, UInt32.le_iff_toNat_le]
  exact Iff.rfl

theorem toNat_toLower (c : Char) :
    c.toLower.toNat = if c.isUpper = true then c.toNat + 32 else c.toNat := by
  unfold Char.toLower
  split
  · next h =>
    have hupper : c.isUpper = true := decide_eq_true h
    have hrange := isUpper_iff.1 hupper
    rw [if_pos hupper]
    have hsum : (c.val + 32).toNat = c.toNat + 32 := by
      rw [UInt32.toNat_add]
      exact Nat.mod_eq_of_lt (Nat.lt_of_le_of_lt (Nat.add_le_add_right hrange.2 32) (by decide))
    exact hsum
  · next h =>
    have hlower : ¬ c.isUpper = true := fun hupper => h (of_decide_eq_true hupper)
    rw [if_neg hlower]

theorem toLower_eq_iff {a b : Char} : a.toLower = b.toLower ↔ SameLetter a b := by
  simp only [← Char.toNat_inj, toNat_toLower, SameLetter, isUpper_iff]
  split <;> split <;> omega

/-- Two texts are the same but for the case of the letters of ASCII. -/
def SameLetters : Text → Text → Prop := List.Forall₂ SameLetter

theorem lower_eq_iff {t u : Text} : lower t = lower u ↔ SameLetters t u := by
  rw [lower, lower, ← List.forall₂_eq_eq_eq, List.forall₂_map_left_iff,
    List.forall₂_map_right_iff]
  simp only [toLower_eq_iff]
  exact Iff.rfl

theorem isBlank_toLower (c : Char) : isBlank c.toLower = isBlank c := by
  by_cases hupper : c.isUpper = true
  · have hrange := isUpper_iff.1 hupper
    have hlower : c.toLower.toNat = c.toNat + 32 := by rw [toNat_toLower, if_pos hupper]
    have hnot : ∀ d : Char, 65 ≤ d.toNat → d.toNat ≤ 122 → isBlank d = false := by
      intro d hlow hhigh
      simp only [isBlank, Bool.or_eq_false_iff, Bool.and_eq_false_iff, decide_eq_false_iff_not]
      omega
    rw [hnot c (by omega) (by omega), hnot c.toLower (by omega) (by omega)]
  · have hsame : c.toLower = c := by
      rw [← Char.toNat_inj, toNat_toLower, if_neg hupper]
    rw [hsame]

end Text

namespace Console

open Text (Blanks IsTrimmed SameLetters)

/-! ## Names -/

/-- The names of a command. -/
def Command.names : Command → List Text
  | connect => ["connect".toList]
  | disconnect => ["disconnect".toList]
  | start => ["start".toList]
  | status => ["status".toList]
  | help => ["help".toList, "?".toList]
  | quit => ["quit".toList, "exit".toList]
  | lookup _ => ["lookup".toList]
  | parse _ => ["parse".toList]

/-- A word is a name of a command, whatever the case of its letters. -/
def Names (word : Text) (c : Command) : Prop := ∃ name ∈ c.names, SameLetters word name

theorem lower_of_mem_names {c : Command} {name : Text} (h : name ∈ c.names) :
    Text.lower name = name ∧ name ≠ [] ∧ ∀ x ∈ name, Text.isBlank x = false := by
  have hall : ∀ c ∈ [Command.connect, .disconnect, .start, .status, .help, .quit, .lookup [],
      .parse []], ∀ name ∈ c.names,
        Text.lower name = name ∧ name ≠ [] ∧ name.any Text.isBlank = false := by decide
  simp only [List.any_eq_false, Bool.not_eq_true] at hall
  cases c with
  | lookup _ => exact hall (.lookup []) (by decide) name h
  | parse _ => exact hall (.parse []) (by decide) name h
  | _ => exact hall _ (by decide) name h

theorem names_iff {word : Text} {c : Command} : Names word c ↔ Text.lower word ∈ c.names := by
  constructor
  · rintro ⟨name, hname, hsame⟩
    rw [Text.lower_eq_iff.2 hsame, (lower_of_mem_names hname).1]
    exact hname
  · intro h
    refine ⟨Text.lower word, h, Text.lower_eq_iff.1 ?_⟩
    exact (lower_of_mem_names h).1.symm

/-- A name is a word. -/
theorem word_of_names {word : Text} {c : Command} (h : Names word c) :
    word ≠ [] ∧ ∀ x ∈ word, Text.isBlank x = false := by
  obtain ⟨-, hne, hnot⟩ := lower_of_mem_names (names_iff.1 h)
  refine ⟨fun hnil => hne (by rw [hnil]; rfl), ?_⟩
  intro x hx
  rw [← Text.isBlank_toLower]
  exact hnot x.toLower (List.mem_map_of_mem hx)

theorem find?_of_mem {names : List (Text × Form)} (hnames : (names.map Prod.fst).Nodup)
    {name : Text} {form : Form} (h : (name, form) ∈ names) :
    names.find? (·.1 = name) = some (name, form) := by
  induction names with
  | nil => cases h
  | cons entry names ih =>
    obtain ⟨hentry, hrest⟩ := List.nodup_cons.1 hnames
    rcases List.mem_cons.1 h with rfl | h
    · simp
    · have hne : entry.1 ≠ name := fun heq => hentry (heq ▸ List.mem_map_of_mem h)
      rw [List.find?_cons_of_neg (by simpa using hne), ih hrest h]

theorem ofWord?_eq_some_iff {word : Text} {form : Form} :
    Form.ofWord? word = some form ↔ (Text.lower word, form) ∈ Form.names := by
  rw [Form.ofWord?]
  constructor
  · intro h
    obtain ⟨⟨name, form'⟩, hfind, rfl⟩ := Option.map_eq_some_iff.1 h
    obtain rfl : name = Text.lower word := by simpa using List.find?_some hfind
    exact List.mem_of_find?_eq_some hfind
  · intro h
    have hnames : (Form.names.map Prod.fst).Nodup := by decide
    rw [find?_of_mem hnames h]
    rfl

section Forms

variable {word argument : Text} {c : Command}

theorem ofWord?_eq_plain_iff :
    Form.ofWord? word = some (.plain c) ↔ Names word c ∧ c.argument? = none := by
  rw [ofWord?_eq_some_iff, names_iff]
  cases c <;> simp [Form.names, Command.names, Command.argument?]

theorem names_of_applied {f : Text → Command} (h : Form.ofWord? word = some (.applied f))
    (argument : Text) : Names word (f argument) ∧ (f argument).argument? = some argument := by
  rw [ofWord?_eq_some_iff] at h
  rw [names_iff]
  have hcases : (Text.lower word = "lookup".toList ∧ f = .lookup) ∨
      (Text.lower word = "parse".toList ∧ f = .parse) := by simpa [Form.names] using h
  rcases hcases with ⟨hword, rfl⟩ | ⟨hword, rfl⟩
  · exact ⟨List.mem_singleton.2 hword, rfl⟩
  · exact ⟨List.mem_singleton.2 hword, rfl⟩

theorem exists_applied_of_names (h : Names word c) (hargument : c.argument? = some argument) :
    ∃ f, Form.ofWord? word = some (.applied f) ∧ f argument = c := by
  simp only [ofWord?_eq_some_iff]
  rw [names_iff] at h
  cases c with
  | lookup name =>
    obtain rfl := Option.some.inj hargument
    exact ⟨.lookup, by simp [Form.names, List.mem_singleton.1 h], rfl⟩
  | parse id =>
    obtain rfl := Option.some.inj hargument
    exact ⟨.parse, by simp [Form.names, List.mem_singleton.1 h], rfl⟩
  | _ => cases hargument

theorem ofWord?_eq_none_iff : Form.ofWord? word = none ↔ ∀ c, ¬ Names word c := by
  constructor
  · intro hnone c hc
    cases hargument : c.argument? with
    | none => simp [ofWord?_eq_plain_iff.2 ⟨hc, hargument⟩] at hnone
    | some argument =>
      obtain ⟨f, hf, -⟩ := exists_applied_of_names hc hargument
      simp [hf] at hnone
  · intro h
    rw [Option.eq_none_iff_forall_ne_some]
    rintro (c | f) hform
    · exact h c (ofWord?_eq_plain_iff.1 hform).1
    · exact h (f []) (names_of_applied hform []).1

end Forms

/-! ## The first word -/

/-- A line starts with white space and a word, which ends where the line does or at white space. -/
structure FirstWord (line word rest : Text) : Prop where
  line : ∃ indent, Blanks indent ∧ line = indent ++ word ++ rest
  nonempty : word ≠ []
  solid : ∀ c ∈ word, Text.isBlank c = false
  ends : ∀ c ∈ rest.head?, Text.isBlank c = true

theorem exists_firstWord {line : Text} (h : ¬ Blanks line) :
    ∃ word rest, FirstWord line word rest := by
  obtain ⟨indent, hindent, hline⟩ := Text.exists_blanks_trimStart line
  cases hstart : Text.trimStart line with
  | nil =>
    rw [hstart, List.append_nil] at hline
    exact absurd (hline ▸ hindent) h
  | cons first others =>
    have hfirst : Text.isBlank first = false :=
      Text.head?_dropWhile_of_not (congrArg List.head? hstart)
    refine ⟨first :: others.takeWhile (!Text.isBlank ·), others.dropWhile (!Text.isBlank ·),
      ⟨indent, hindent, ?_⟩, List.cons_ne_nil _ _, ?_, ?_⟩
    · rw [List.append_assoc, List.cons_append, List.takeWhile_append_dropWhile, ← hstart]
      exact hline
    · intro c hc
      rcases List.mem_cons.1 hc with rfl | hc
      · exact hfirst
      · simpa using List.mem_takeWhile_imp hc
    · intro c hc
      simpa using Text.head?_dropWhile_of_not hc

namespace FirstWord

variable {line word rest : Text} (h : FirstWord line word rest)

include h

theorem not_blanks : ¬ Blanks line := by
  obtain ⟨indent, -, hline⟩ := h.line
  obtain ⟨first, others, hword⟩ := List.exists_cons_of_ne_nil h.nonempty
  have hfirst : Text.isBlank first = false := h.solid first (hword ▸ List.mem_cons_self)
  intro hblanks
  have hblank : Text.isBlank first = true := hblanks first (by simp [hline, hword])
  simp [hfirst] at hblank

theorem head?_append (t : Text) : ∀ c ∈ (word ++ t).head?, Text.isBlank c = false := by
  obtain ⟨first, others, hword⟩ := List.exists_cons_of_ne_nil h.nonempty
  intro c hc
  obtain rfl : first = c := by simpa [hword] using hc
  exact h.solid first (hword ▸ List.mem_cons_self)

theorem trim_of_blanks (hrest : Blanks rest) : Text.trim line = word := by
  obtain ⟨indent, hindent, rfl⟩ := h.line
  exact Text.trim_eq_iff.2
    ⟨Text.isTrimmed_of_forall h.solid, indent, rest, hindent, hrest, rfl⟩

/-- What follows the first word, if it is not all white space, is white space, something that
neither starts nor ends with it, and white space. -/
theorem exists_argument (hrest : ¬ Blanks rest) : ∃ gap trail, Blanks gap ∧ gap ≠ [] ∧
    Blanks trail ∧ rest = gap ++ Text.trim rest ++ trail ∧ Text.trim rest ≠ [] := by
  obtain ⟨gap, trail, hgap, htrail, heq⟩ := Text.exists_blanks_trim rest
  have hne : Text.trim rest ≠ [] := fun hnil => hrest (Text.trim_eq_nil_iff.1 hnil)
  refine ⟨gap, trail, hgap, ?_, htrail, heq, hne⟩
  rintro rfl
  obtain ⟨first, others, hfirst⟩ := List.exists_cons_of_ne_nil hne
  have hhead : rest.head? = some first := by
    rw [heq, List.nil_append, hfirst]
    rfl
  have hblank : Text.isBlank first = true := h.ends first hhead
  have hnot : Text.isBlank first = false :=
    (Text.isTrimmed_trim rest).1 first (congrArg List.head? hfirst)
  simp [hnot] at hblank

/-- The reader finds the first word and what follows it. -/
theorem split_trim : Command.split (Text.trim line) =
    (word, if Blanks rest then none else some (Text.trim rest)) := by
  by_cases hrest : Blanks rest
  · rw [h.trim_of_blanks hrest, if_pos hrest, Command.split, Text.cutAt_eq_none_iff.2 h.solid]
  · obtain ⟨gap, trail, hgap, hne, htrail, heq, hargument⟩ := h.exists_argument hrest
    obtain ⟨c, gap, rfl⟩ := List.exists_cons_of_ne_nil hne
    obtain ⟨indent, hindent, hline⟩ := h.line
    have htrim : Text.trim line = word ++ c :: (gap ++ Text.trim rest) := by
      refine Text.trim_eq_iff.2 ⟨⟨h.head?_append _, ?_⟩, indent, trail, hindent, htrail, ?_⟩
      · have hlast : (word ++ c :: (gap ++ Text.trim rest)).getLast? =
            (Text.trim rest).getLast? := by
          rw [← List.cons_append, ← List.append_assoc]
          exact List.getLast?_append_of_ne_nil _ hargument
        rw [hlast]
        exact (Text.isTrimmed_trim rest).2
      · rw [hline]
        conv_lhs => rw [heq]
        simp
    have hcut : Text.cutAt Text.isBlank (word ++ c :: (gap ++ Text.trim rest)) =
        some (word, gap ++ Text.trim rest) :=
      Text.cutAt_append h.solid (hgap c List.mem_cons_self)
    have hinner : Text.trim (gap ++ Text.trim rest) = Text.trim rest := by
      rw [Text.trim_append_left fun x hx => hgap x (List.mem_cons_of_mem _ hx)]
      exact Text.trim_eq_of_isTrimmed (Text.isTrimmed_trim rest)
    rw [htrim, if_neg hrest, Command.split, hcut]
    simp only [hinner, if_neg hargument]

theorem parseLine_eq : Command.parseLine line =
    match Form.ofWord? word with
    | none => .error (.unknown word)
    | some form =>
      (form.apply word (if Blanks rest then none else some (Text.trim rest))).map some := by
  have hne : Text.trim line ≠ [] := fun hnil => h.not_blanks (Text.trim_eq_nil_iff.1 hnil)
  cases hform : Form.ofWord? word with
  | none => simp only [Command.parseLine, if_neg hne, h.split_trim, hform]
  | some form => simp only [Command.parseLine, if_neg hne, h.split_trim, hform]

end FirstWord

/-! ## What is said of a line -/

/-- What can be said of a line, and when. -/
inductive LineVerdict (line : Text) : Except CommandError (Option Command) → Prop where
  | nothing (h : Blanks line) : LineVerdict line (.ok none)
  | alone {word rest : Text} {c : Command} (h : FirstWord line word rest) (hrest : Blanks rest)
    (hc : Names word c) (hnone : c.argument? = none) : LineVerdict line (.ok (some c))
  | applied {word rest : Text} {c : Command} (h : FirstWord line word rest)
    (hrest : ¬ Blanks rest) (hc : Names word c) (hargument : c.argument? = some (Text.trim rest)) :
    LineVerdict line (.ok (some c))
  | unknown {word rest : Text} (h : FirstWord line word rest) (hno : ∀ c, ¬ Names word c) :
    LineVerdict line (.error (.unknown word))
  | missing {word rest argument : Text} {c : Command} (h : FirstWord line word rest)
    (hrest : Blanks rest) (hc : Names word c) (hargument : c.argument? = some argument) :
    LineVerdict line (.error (.missingArgument word))
  | unexpected {word rest : Text} {c : Command} (h : FirstWord line word rest)
    (hrest : ¬ Blanks rest) (hc : Names word c) (hnone : c.argument? = none) :
    LineVerdict line (.error (.unexpectedArgument word))

theorem parseLine_of_blanks {line : Text} (h : Blanks line) :
    Command.parseLine line = .ok none := by
  rw [Command.parseLine, if_pos (Text.trim_eq_nil_iff.2 h)]

theorem lineVerdict_parseLine (line : Text) : LineVerdict line (Command.parseLine line) := by
  by_cases hblanks : Blanks line
  · rw [parseLine_of_blanks hblanks]
    exact .nothing hblanks
  obtain ⟨word, rest, h⟩ := exists_firstWord hblanks
  rw [h.parseLine_eq]
  cases hform : Form.ofWord? word with
  | none => exact .unknown h (ofWord?_eq_none_iff.1 hform)
  | some form =>
    cases form with
    | plain c =>
      obtain ⟨hc, hnone⟩ := ofWord?_eq_plain_iff.1 hform
      by_cases hrest : Blanks rest
      · simp only [if_pos hrest]
        exact .alone h hrest hc hnone
      · simp only [if_neg hrest]
        exact .unexpected h hrest hc hnone
    | applied f =>
      obtain ⟨hc, hargument⟩ := names_of_applied hform (Text.trim rest)
      by_cases hrest : Blanks rest
      · simp only [if_pos hrest]
        exact .missing h hrest hc hargument
      · simp only [if_neg hrest]
        exact .applied h hrest hc hargument

theorem LineVerdict.eq_parseLine {line : Text} {r : Except CommandError (Option Command)}
    (h : LineVerdict line r) : Command.parseLine line = r := by
  cases h with
  | nothing h => exact parseLine_of_blanks h
  | alone h hrest hc hnone =>
    simp only [h.parseLine_eq, ofWord?_eq_plain_iff.2 ⟨hc, hnone⟩, if_pos hrest]
    rfl
  | applied h hrest hc hargument =>
    obtain ⟨f, hf, hfc⟩ := exists_applied_of_names hc hargument
    simp only [h.parseLine_eq, hf, if_neg hrest, Form.apply, hfc]
    rfl
  | unknown h hno => simp only [h.parseLine_eq, ofWord?_eq_none_iff.2 hno]
  | missing h hrest hc hargument =>
    obtain ⟨f, hf, -⟩ := exists_applied_of_names hc hargument
    simp only [h.parseLine_eq, hf, if_pos hrest]
    rfl
  | unexpected h hrest hc hnone =>
    simp only [h.parseLine_eq, ofWord?_eq_plain_iff.2 ⟨hc, hnone⟩, if_neg hrest]
    rfl

theorem parseLine_eq_iff {line : Text} {r : Except CommandError (Option Command)} :
    Command.parseLine line = r ↔ LineVerdict line r := by
  constructor
  · rintro rfl
    exact lineVerdict_parseLine line
  · exact LineVerdict.eq_parseLine

/-! ## Lines that ask for a command -/

/-- A line asks for a command: it is a name of the command and, if the command takes one, the
argument, with white space around and between them. -/
inductive Asks (line : Text) (c : Command) : Prop where
  | alone {indent word trail : Text} (hnone : c.argument? = none) (hword : Names word c)
    (hindent : Blanks indent) (htrail : Blanks trail) (hline : line = indent ++ word ++ trail)
  | applied {indent word gap argument trail : Text} (hargument : c.argument? = some argument)
    (hword : Names word c) (hindent : Blanks indent) (hgap : Blanks gap) (hapart : gap ≠ [])
    (hne : argument ≠ []) (htrimmed : IsTrimmed argument) (htrail : Blanks trail)
    (hline : line = indent ++ word ++ gap ++ argument ++ trail)

theorem firstWord_of_names {indent word rest : Text} {c : Command} (hword : Names word c)
    (hindent : Blanks indent) (hends : ∀ x ∈ rest.head?, Text.isBlank x = true) :
    FirstWord (indent ++ word ++ rest) word rest := by
  obtain ⟨hne, hsolid⟩ := word_of_names hword
  exact ⟨⟨indent, hindent, rfl⟩, hne, hsolid, hends⟩

theorem parseLine_eq_some_iff {line : Text} {c : Command} :
    Command.parseLine line = .ok (some c) ↔ Asks line c := by
  rw [parseLine_eq_iff]
  constructor
  · intro h
    cases h with
    | alone h hrest hc hnone =>
      obtain ⟨indent, hindent, hline⟩ := h.line
      exact .alone hnone hc hindent hrest hline
    | applied h hrest hc hargument =>
      obtain ⟨indent, hindent, hline⟩ := h.line
      obtain ⟨gap, trail, hgap, hapart, htrail, heq, hne⟩ := h.exists_argument hrest
      refine .applied hargument hc hindent hgap hapart hne (Text.isTrimmed_trim _) htrail ?_
      rw [hline]
      conv_lhs => rw [heq]
      simp only [List.append_assoc]
  · rintro (⟨hnone, hword, hindent, htrail, rfl⟩ |
      @⟨indent, word, gap, argument, trail, hargument, hword, hindent, hgap, hapart, hne, htrimmed,
        htrail, rfl⟩)
    · apply LineVerdict.alone (firstWord_of_names hword hindent _) htrail hword hnone
      exact fun x hx => htrail x (List.mem_of_mem_head? hx)
    · have htrim : Text.trim (gap ++ argument ++ trail) = argument :=
        Text.trim_eq_iff.2 ⟨htrimmed, gap, trail, hgap, htrail, rfl⟩
      have hrest : ¬ Blanks (gap ++ argument ++ trail) := by
        intro hblanks
        exact hne (htrim.symm.trans (Text.trim_of_blanks hblanks))
      have hends : ∀ x ∈ (gap ++ argument ++ trail).head?, Text.isBlank x = true := by
        obtain ⟨first, others, rfl⟩ := List.exists_cons_of_ne_nil hapart
        rintro x ⟨⟩
        exact hgap first List.mem_cons_self
      have hfirst := firstWord_of_names hword hindent hends
      rw [← htrim] at hargument
      simpa only [List.append_assoc] using LineVerdict.applied hfirst hrest hword hargument

theorem parseLine_eq_none_iff {line : Text} :
    Command.parseLine line = .ok none ↔ Blanks line := by
  rw [parseLine_eq_iff]
  constructor
  · rintro ⟨h⟩
    exact h
  · exact .nothing

/-! ## The main statement -/

/-- Reading accepts exactly the grammar.  A line is read as a command exactly if it asks for it, and
as nothing exactly if it is all white space.  Every other line is refused with its first word as it
stands: because that is no name of a command; because it names a command that takes an argument,
and nothing but white space follows; or because it names another command, and something follows. -/
theorem parseLine_iff_grammar (line : Text) :
    (∀ c, Command.parseLine line = .ok (some c) ↔ Asks line c) ∧
    (Command.parseLine line = .ok none ↔ Blanks line) ∧
    (∀ word, Command.parseLine line = .error (.unknown word) ↔
      ∃ rest, FirstWord line word rest ∧ ∀ c, ¬ Names word c) ∧
    (∀ word, Command.parseLine line = .error (.missingArgument word) ↔
      ∃ rest, FirstWord line word rest ∧ Blanks rest ∧
        ∃ a, Names word (.lookup a) ∨ Names word (.parse a)) ∧
    ∀ word, Command.parseLine line = .error (.unexpectedArgument word) ↔
      ∃ rest, FirstWord line word rest ∧ ¬ Blanks rest ∧
        ∃ c, c.argument? = none ∧ Names word c := by
  refine ⟨fun c => parseLine_eq_some_iff, parseLine_eq_none_iff, fun word => ?_, fun word => ?_,
    fun word => ?_⟩
  · rw [parseLine_eq_iff]
    constructor
    · intro h
      cases h with
      | unknown h hno => exact ⟨_, h, hno⟩
    · rintro ⟨rest, h, hno⟩
      exact .unknown h hno
  · rw [parseLine_eq_iff]
    constructor
    · intro h
      cases h with
      | @missing word rest argument c h hrest hc hargument =>
        refine ⟨rest, h, hrest, argument, ?_⟩
        cases c with
        | lookup name => exact Or.inl hc
        | parse id => exact Or.inr hc
        | _ => cases hargument
    · rintro ⟨rest, h, hrest, a, hc | hc⟩
      · exact .missing h hrest hc rfl
      · exact .missing h hrest hc rfl
  · rw [parseLine_eq_iff]
    constructor
    · intro h
      cases h with
      | unexpected h hrest hc hnone => exact ⟨_, h, hrest, _, hnone, hc⟩
    · rintro ⟨rest, h, hrest, c, hnone, hc⟩
      exact .unexpected h hrest hc hnone

/-- The kelvin sign has a small form among the letters of ASCII, but it is not one of them. -/
example : Command.parseLine "\t QuIt\r".toList = .ok (some .quit) ∧
    Command.parseLine "loo\u212Aup x".toList = .error (.unknown "loo\u212Aup".toList) := by
  decide

end Console

end DeviceTwin
