import DeviceTwin.Proofs.Json.Numbers
import DeviceTwin.Proofs.Json.Strings

/-!
# JSON values

The grammar of values, with white space wherever JSON allows it (`IsPart`, `IsValue`).  Lists and
objects are one construction: an opening bracket, items with commas between them, the closing
bracket; the items of an object have keys in front of their values.

A value is passed over to its end, however deep its brackets are nested
(`skipValue_of_isValue`).  The reader keeps a stack of open brackets where the grammar is a tree;
the induction over the tree says of every part of it that passing over the part brings the reader
from one stage to another and leaves the brackets around it alone (`Passes`).
-/

namespace DeviceTwin.Json

/-! ## The grammar -/

/-- A text of nothing but white space. -/
def Blank (t : Text) : Prop := ∀ c ∈ t, isSpace c = true

/-- The character that opens a bracket. -/
def Bracket.opening : Bracket → Char
  | list => '['
  | object => '{'

/-- The character that closes a bracket. -/
def Bracket.closing : Bracket → Char
  | list => ']'
  | object => '}'

/-- The words that are values. -/
def valueWords : List Text := ["null".toList, "true".toList, "false".toList]

/-- A value that is no list and no object. -/
inductive IsScalar : Text → Prop where
  | word {t : Text} (h : t ∈ valueWords) : IsScalar t
  | number {t : Text} (h : IsNumber t) : IsScalar t
  | string {body : Text} (h : IsBody body) : IsScalar ('"' :: (body ++ ['"']))

/-- What stands in front of the value of an item: nothing in a list, a key and its colon in an
object. -/
inductive IsLead : Bracket → Text → Prop where
  | list : IsLead .list []
  | object {before body after : Text} (hbefore : Blank before) (hbody : IsBody body)
    (hafter : Blank after) :
    IsLead .object (before ++ '"' :: (body ++ '"' :: (after ++ [':'])))

/-- The parts of a value that are made of other parts. -/
inductive Part where
  | value
  /-- The items of a bracket, without the bracket. -/
  | items (b : Bracket)
  deriving DecidableEq, Repr

/-- How parts are written. -/
inductive IsPart : Part → Text → Prop where
  | scalar {t : Text} (h : IsScalar t) : IsPart .value t
  | empty {b : Bracket} {inner : Text} (h : Blank inner) :
    IsPart .value (b.opening :: (inner ++ [b.closing]))
  | filled {b : Bracket} {t : Text} (h : IsPart (.items b) t) :
    IsPart .value (b.opening :: (t ++ [b.closing]))
  | last {b : Bracket} {lead before v after : Text} (hlead : IsLead b lead)
    (hbefore : Blank before) (hv : IsPart .value v) (hafter : Blank after) :
    IsPart (.items b) (lead ++ (before ++ (v ++ after)))
  | more {b : Bracket} {lead before v after t : Text} (hlead : IsLead b lead)
    (hbefore : Blank before) (hv : IsPart .value v) (hafter : Blank after)
    (ht : IsPart (.items b) t) :
    IsPart (.items b) (lead ++ (before ++ (v ++ (after ++ ',' :: t))))

/-- A text that is a value, without white space around it. -/
def IsValue (t : Text) : Prop := IsPart .value t

/-! ## White space -/

theorem blank_nil : Blank [] := by simp [Blank]

theorem dropSpace_append {w : Text} (h : Blank w) (t : Text) : dropSpace (w ++ t) = dropSpace t :=
  List.dropWhile_append_of_pos h

theorem dropSpace_cons {c : Char} (h : isSpace c = false) (t : Text) :
    dropSpace (c :: t) = c :: t := by
  simp [dropSpace, h]

/-- Behind white space stands what is no white space. -/
theorem dropSpace_append_cons {w : Text} {c : Char} (h : Blank w) (hc : isSpace c = false)
    (t : Text) : dropSpace (w ++ c :: t) = c :: t := by
  rw [dropSpace_append h, dropSpace_cons hc]

theorem dropSpace_of_blank {w : Text} (h : Blank w) : dropSpace w = [] := by
  have hdrop := dropSpace_append h []
  rwa [List.append_nil] at hdrop

theorem dropSpace_dropSpace (t : Text) : dropSpace (dropSpace t) = dropSpace t := by
  induction t with
  | nil => rfl
  | cons c t ih =>
    by_cases hc : isSpace c = true
    · have hdrop : dropSpace (c :: t) = dropSpace t := by simp [dropSpace, hc]
      rw [hdrop, ih]
    · have hdrop : dropSpace (c :: t) = c :: t := dropSpace_cons (by simpa using hc) t
      rw [hdrop, hdrop]

/-- White space ends a number, and so does what may stand behind a value. -/
theorem ends_append {w : Text} {c : Char} (h : Blank w) (hc : c = ',' ∨ c = ']' ∨ c = '}')
    (t : Text) : Ends (w ++ c :: t) := by
  intro d hd
  cases w with
  | nil =>
    obtain rfl : c = d := by simpa using hd
    rcases hc with rfl | rfl | rfl <;> rfl
  | cons e w =>
    obtain rfl : e = d := by simpa using hd
    have hspace : isSpace e = true := h e List.mem_cons_self
    simp only [isSpace, Bool.or_eq_true, decide_eq_true_eq] at hspace
    rcases hspace with ((rfl | rfl) | rfl) | rfl <;> rfl

theorem Bracket.ends_closing (b : Bracket) {w : Text} (h : Blank w) (t : Text) :
    Ends (w ++ b.closing :: t) := by
  apply ends_append h
  cases b with
  | list => exact Or.inr (Or.inl rfl)
  | object => exact Or.inr (Or.inr rfl)

/-! ## How values begin -/

theorem exists_first_of_isNumber {t : Text} (h : IsNumber t) :
    ∃ c rest, t = c :: rest ∧ (c = '-' ∨ c.isDigit = true) := by
  obtain ⟨minus, hminus, n, fraction, exponent, -, -, rfl⟩ := h
  simp only [List.mem_cons, List.not_mem_nil, or_false] at hminus
  rcases hminus with rfl | rfl
  · obtain ⟨c, digits, hrender, hc⟩ := exists_first_render n
    exact ⟨c, digits ++ (fraction ++ exponent), by rw [hrender]; rfl, Or.inr hc⟩
  · exact ⟨'-', _, rfl, Or.inl rfl⟩

theorem exists_first_of_isScalar {t : Text} (h : IsScalar t) :
    ∃ c rest, t = c :: rest ∧ (c ∈ ['n', 't', 'f', '-', '"'] ∨ c.isDigit = true) := by
  cases h with
  | word h =>
    simp only [valueWords, List.mem_cons, List.not_mem_nil, or_false] at h
    rcases h with rfl | rfl | rfl
    · exact ⟨'n', _, rfl, Or.inl (by decide)⟩
    · exact ⟨'t', _, rfl, Or.inl (by decide)⟩
    · exact ⟨'f', _, rfl, Or.inl (by decide)⟩
  | number h =>
    obtain ⟨c, rest, rfl, hc⟩ := exists_first_of_isNumber h
    refine ⟨c, rest, rfl, hc.imp_left ?_⟩
    rintro rfl
    decide
  | string h => exact ⟨'"', _, rfl, Or.inl (by decide)⟩

/-- A character with which a scalar begins is neither white space nor a bracket. -/
theorem not_mark_of_first {c : Char} (h : c ∈ ['n', 't', 'f', '-', '"'] ∨ c.isDigit = true) :
    isSpace c = false ∧ c ≠ '[' ∧ c ≠ '{' ∧ c ≠ ']' ∧ c ≠ '}' := by
  rcases h with h | h
  · simp only [List.mem_cons, List.not_mem_nil, or_false] at h
    rcases h with rfl | rfl | rfl | rfl | rfl <;> decide
  · have hne : ∀ d : Char, d.isDigit = false → c ≠ d := fun d => ne_of_isDigit h
    refine ⟨?_, hne _ rfl, hne _ rfl, hne _ rfl, hne _ rfl⟩
    simp only [isSpace, Bool.or_eq_false_iff, decide_eq_false_iff_not]
    exact ⟨⟨⟨hne _ rfl, hne _ rfl⟩, hne _ rfl⟩, hne _ rfl⟩

theorem Bracket.opening_marks (b : Bracket) :
    isSpace b.opening = false ∧ b.opening ≠ ']' ∧ b.opening ≠ '}' := by
  cases b <;> decide

theorem exists_first_of_isValue {t : Text} (h : IsValue t) :
    ∃ c rest, t = c :: rest ∧ isSpace c = false ∧ c ≠ ']' ∧ c ≠ '}' := by
  cases h with
  | scalar h =>
    obtain ⟨c, rest, rfl, hc⟩ := exists_first_of_isScalar h
    obtain ⟨hspace, -, -, hlist, hobject⟩ := not_mark_of_first hc
    exact ⟨c, rest, rfl, hspace, hlist, hobject⟩
  | @empty b inner h => exact ⟨b.opening, _, rfl, b.opening_marks⟩
  | @filled b t h => exact ⟨b.opening, _, rfl, b.opening_marks⟩

/-- In front of an item there is no closing bracket. -/
theorem exists_first_of_lead {b : Bracket} {lead before v : Text} (hlead : IsLead b lead)
    (hbefore : Blank before) (hv : IsValue v) (t : Text) :
    ∃ c rest, dropSpace (lead ++ (before ++ (v ++ t))) = c :: rest ∧ b.isClosedBy c = false := by
  cases hlead with
  | list =>
    obtain ⟨c, rest, rfl, hspace, hc, -⟩ := exists_first_of_isValue hv
    refine ⟨c, rest ++ t, dropSpace_append_cons hbefore hspace _, ?_⟩
    simpa [Bracket.isClosedBy] using hc
  | object hw hbody hafter =>
    rw [List.append_assoc]
    exact ⟨'"', _, dropSpace_append_cons hw rfl _, rfl⟩

theorem exists_first_of_items {b : Bracket} {t : Text} (h : IsPart (.items b) t) (rest : Text) :
    ∃ c after, dropSpace (t ++ rest) = c :: after ∧ b.isClosedBy c = false := by
  cases h with
  | last hlead hbefore hv hafter =>
    simp only [List.append_assoc]
    exact exists_first_of_lead hlead hbefore hv _
  | more hlead hbefore hv hafter ht =>
    simp only [List.append_assoc]
    exact exists_first_of_lead hlead hbefore hv _

/-! ## Passing over scalars and keys -/

theorem readWord_append (word rest : Text) : readWord word (word ++ rest) = .ok rest := by
  induction word with
  | nil => rfl
  | cons c word ih =>
    rw [List.cons_append, readWord, if_pos rfl]
    exact ih

theorem skipScalar_digit {c : Char} (h : c.isDigit = true) (rest : Text) :
    skipScalar (c :: rest) = skipNumber (c :: rest) := by
  rw [skipScalar, if_pos h]
  · exact ne_of_isDigit h rfl
  · exact ne_of_isDigit h rfl
  · exact ne_of_isDigit h rfl
  · exact ne_of_isDigit h rfl
  · exact ne_of_isDigit h rfl

theorem skipScalar_of_isScalar {t rest : Text} (h : IsScalar t) (hrest : Ends rest) :
    skipScalar (t ++ rest) = .ok rest := by
  cases h with
  | word h =>
    simp only [valueWords, List.mem_cons, List.not_mem_nil, or_false] at h
    rcases h with rfl | rfl | rfl
    · exact readWord_append "ull".toList rest
    · exact readWord_append "rue".toList rest
    · exact readWord_append "alse".toList rest
  | number h =>
    obtain ⟨minus, hminus, n, fraction, exponent, hfraction, hexponent, rfl⟩ := h
    have hskip := skipNumber_of_parts (n := n) hfraction hexponent hrest
    simp only [List.mem_cons, List.not_mem_nil, or_false] at hminus
    simp only [List.append_assoc]
    rcases hminus with rfl | rfl
    · obtain ⟨c, digits, hrender, hc⟩ := exists_first_render n
      rw [hrender] at hskip ⊢
      rw [List.nil_append, List.cons_append, skipScalar_digit hc]
      exact hskip
    · exact hskip
  | string h =>
    rw [List.cons_append, List.append_assoc]
    exact skipString_of_isBody h rest

theorem skipKey_of_isBody {before body after : Text} (hbefore : Blank before) (hbody : IsBody body)
    (hafter : Blank after) (rest : Text) :
    skipKey (before ++ '"' :: (body ++ '"' :: (after ++ ':' :: rest))) = .ok rest := by
  have hcolon : dropSpace (after ++ ':' :: rest) = ':' :: rest :=
    dropSpace_append_cons hafter rfl rest
  simp only [skipKey, dropSpace_append_cons hbefore (by rfl : isSpace '"' = false),
    skipString_of_isBody hbody, hcolon]

theorem skipLead_of_isLead {b : Bracket} {lead : Text} (h : IsLead b lead) (rest : Text) :
    skipLead b (lead ++ rest) = .ok rest := by
  cases h with
  | list => rfl
  | object hbefore hbody hafter =>
    simp only [skipLead, List.append_assoc, List.cons_append, List.nil_append]
    exact skipKey_of_isBody hbefore hbody hafter rest

/-! ## The reader, one token at a time -/

section Skip

variable {b : Bracket} {outer : List Bracket} {t rest : Text} {c : Char}

theorem skipFrom_dropSpace (outer : List Bracket) (t : Text) :
    skipFrom .value outer (dropSpace t) = skipFrom .value outer t := by
  rw [skipFrom, skipFrom, dropSpace_dropSpace]

theorem skipFrom_scalar (h : dropSpace t = c :: rest) (hlist : c ≠ '[') (hobject : c ≠ '{')
    {after : Text} (hskip : skipScalar (c :: rest) = .ok after) :
    skipFrom .value outer t = skipFrom .valueEnded outer after := by
  rw [skipFrom]
  split
  · next hc =>
    rw [h] at hc
    cases hc
    exact absurd rfl hlist
  · next hc =>
    rw [h] at hc
    cases hc
    exact absurd rfl hobject
  · split
    · next f hf =>
      rw [h, hskip] at hf
      cases hf
    · next last hlast =>
      rw [h, hskip] at hlast
      cases hlast
      rfl

theorem skipFrom_opening (h : dropSpace t = b.opening :: rest) :
    skipFrom .value outer t = skipFrom .opened (b :: outer) rest := by
  rw [skipFrom]
  cases b with
  | list =>
    split
    · next hc =>
      rw [h] at hc
      cases hc
      rfl
    · next hc =>
      rw [h] at hc
      cases hc
    · next hlist _ => exact absurd h (hlist rest)
  | object =>
    split
    · next hc =>
      rw [h] at hc
      cases hc
    · next hc =>
      rw [h] at hc
      cases hc
      rfl
    · next _ hobject => exact absurd h (hobject rest)

theorem skipFrom_opened_closing (h : dropSpace t = b.closing :: rest) :
    skipFrom .opened (b :: outer) t = skipFrom .valueEnded outer rest := by
  have hclosed : b.isClosedBy b.closing = true := by cases b <;> rfl
  rw [skipFrom]
  split
  · next hc =>
    rw [h] at hc
    cases hc
  · next hc =>
    rw [h] at hc
    cases hc
    rw [if_pos hclosed]

/-- White space in front of an item changes nothing. -/
theorem skipLead_dropSpace (b : Bracket) (outer : List Bracket) (t : Text) :
    (skipLead b (dropSpace t)).bind (skipFrom .value (b :: outer)) =
      (skipLead b t).bind (skipFrom .value (b :: outer)) := by
  cases b with
  | list => exact skipFrom_dropSpace _ t
  | object =>
    have hkey : skipKey (dropSpace t) = skipKey t := by
      simp only [skipKey, dropSpace_dropSpace]
    simp only [skipLead, hkey]

theorem skipFrom_opened (h : dropSpace t = c :: rest) (hc : b.isClosedBy c = false) :
    skipFrom .opened (b :: outer) t = (skipLead b t).bind (skipFrom .value (b :: outer)) := by
  rw [← skipLead_dropSpace, h, skipFrom]
  split
  · next hnil =>
    rw [h] at hnil
    cases hnil
  · next hcons =>
    rw [h] at hcons
    cases hcons
    rw [if_neg (by simp [hc])]
    split
    · next f hf =>
      rw [hf]
      rfl
    · next last hlast =>
      rw [hlast]
      rfl

theorem skipFrom_ended_comma (h : dropSpace t = ',' :: rest) :
    skipFrom .valueEnded (b :: outer) t =
      (skipLead b rest).bind (skipFrom .value (b :: outer)) := by
  rw [skipFrom]
  split
  · next hnil =>
    rw [h] at hnil
    cases hnil
  · next hcons =>
    rw [h] at hcons
    cases hcons
    split
    · split
      · next f hf =>
        rw [hf]
        rfl
      · next last hlast =>
        rw [hlast]
        rfl
    · next hne => exact absurd rfl hne

theorem skipFrom_ended_closing (h : dropSpace t = b.closing :: rest) :
    skipFrom .valueEnded (b :: outer) t = skipFrom .valueEnded outer rest := by
  have hclosed : b.isClosedBy b.closing = true := by cases b <;> rfl
  have hcomma : b.closing ≠ ',' := by cases b <;> decide
  rw [skipFrom]
  split
  · next hnil =>
    rw [h] at hnil
    cases hnil
  · next hcons =>
    rw [h] at hcons
    cases hcons
    rw [if_pos hclosed]
    split
    · next heq => exact absurd heq hcomma
    · rfl

end Skip

theorem Bracket.isSpace_closing (b : Bracket) : isSpace b.closing = false := by
  cases b <;> rfl

/-- A bracket begins behind the white space in front of it. -/
theorem Bracket.dropSpace_append (b : Bracket) {before : Text} (h : Blank before)
    (inner rest : Text) :
    dropSpace (before ++ (b.opening :: (inner ++ [b.closing]) ++ rest)) =
      b.opening :: (inner ++ b.closing :: rest) := by
  rw [List.cons_append, List.append_assoc]
  exact dropSpace_append_cons h b.opening_marks.1 _

/-! ## Passing over parts -/

/-- What passing over a part does: behind a value the reader stands at its end, behind the items
of a bracket and its closing character at the end of that bracket. -/
def Passes : Part → Text → Prop
  | .value, t => ∀ outer before rest, Blank before → Ends rest →
    skipFrom .value outer (before ++ (t ++ rest)) = skipFrom .valueEnded outer rest
  | .items b, t => ∀ outer rest,
    (skipLead b (t ++ b.closing :: rest)).bind (skipFrom .value (b :: outer)) =
      skipFrom .valueEnded outer rest

theorem passes_of_isPart {p : Part} {t : Text} (h : IsPart p t) : Passes p t := by
  induction h with
  | scalar h =>
    intro outer before rest hbefore hrest
    obtain ⟨c, s, rfl, hc⟩ := exists_first_of_isScalar h
    obtain ⟨hspace, hlist, hobject, -, -⟩ := not_mark_of_first hc
    have hfirst : dropSpace (before ++ (c :: s ++ rest)) = c :: (s ++ rest) :=
      dropSpace_append_cons hbefore hspace _
    exact skipFrom_scalar hfirst hlist hobject (skipScalar_of_isScalar h hrest)
  | @empty b inner h =>
    intro outer before rest hbefore hrest
    rw [skipFrom_opening (b.dropSpace_append hbefore inner rest)]
    exact skipFrom_opened_closing (dropSpace_append_cons h b.isSpace_closing rest)
  | @filled b t h ih =>
    intro outer before rest hbefore hrest
    obtain ⟨c, after, hfirst, hc⟩ := exists_first_of_items h (b.closing :: rest)
    rw [skipFrom_opening (b.dropSpace_append hbefore t rest), skipFrom_opened hfirst hc]
    exact ih outer rest
  | @last b lead before v after hlead hbefore hv hafter ih =>
    intro outer rest
    have hvalue := ih (b :: outer) before _ hbefore (b.ends_closing hafter rest)
    simp only [List.append_assoc]
    rw [skipLead_of_isLead hlead]
    exact hvalue.trans
      (skipFrom_ended_closing (dropSpace_append_cons hafter b.isSpace_closing rest))
  | @more b lead before v after t hlead hbefore hv hafter ht ihv iht =>
    intro outer rest
    have hends : Ends (after ++ ',' :: (t ++ b.closing :: rest)) :=
      ends_append hafter (Or.inl rfl) _
    have hvalue := ihv (b :: outer) before _ hbefore hends
    have hcomma : dropSpace (after ++ ',' :: (t ++ b.closing :: rest)) =
        ',' :: (t ++ b.closing :: rest) := dropSpace_append_cons hafter rfl _
    simp only [List.append_assoc, List.cons_append]
    rw [skipLead_of_isLead hlead]
    exact hvalue.trans ((skipFrom_ended_comma hcomma).trans (iht outer rest))

/-- A value is passed over with the white space in front of it, whatever it is. -/
theorem skipValue_of_isValue {before v rest : Text} (hbefore : Blank before) (hv : IsValue v)
    (hrest : Ends rest) : skipValue (before ++ (v ++ rest)) = .ok rest := by
  have hpasses : Passes .value v := passes_of_isPart hv
  rw [skipValue, hpasses [] before rest hbefore hrest, skipFrom]

end DeviceTwin.Json
