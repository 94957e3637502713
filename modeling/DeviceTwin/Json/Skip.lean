import DeviceTwin.Json.Number
import DeviceTwin.Json.Quoted

/-!
# Passing over JSON values

A value that is not needed is passed over without a limit on its depth: the lists and objects that
have been opened and not yet closed are kept on a stack.  The text still has to be grammatical.
-/

namespace DeviceTwin.Json

/-- White space between tokens. -/
def isSpace (c : Char) : Bool := c = ' ' || c = '\n' || c = '\t' || c = '\r'

/-- The text behind the white space at its start. -/
def dropSpace (t : Text) : Text := t.dropWhile isSpace

theorem length_dropSpace (t : Text) : (dropSpace t).length ≤ t.length :=
  (List.dropWhile_sublist _).length_le

/-- Reads the letters of a word one by one. -/
def readWord : Text → Text → Except Fault Text
  | [], rest => .ok rest
  | _ :: _, [] => .error (faultAt .endInValue [])
  | e :: es, c :: rest =>
    if c = e then readWord es rest else .error (faultAfter .expectedWord (c :: rest))

theorem length_of_readWord {word t rest : Text} (h : readWord word t = .ok rest) :
    rest.length ≤ t.length := by
  induction word generalizing t with
  | nil =>
    simp only [readWord, Except.ok.injEq] at h
    simp [h]
  | cons e word ih =>
    cases t with
    | nil => simp [readWord] at h
    | cons c t =>
      simp only [readWord] at h
      split at h
      · have := ih h
        simp only [List.length_cons]
        omega
      · cases h

/-- What has been opened. -/
inductive Bracket where
  | list
  | object
  deriving DecidableEq, Repr

/-- What a reader is about to see: a value, what may follow an opening bracket, or what may follow
a value. -/
inductive Stage where
  | value
  | opened
  | valueEnded
  deriving DecidableEq, Repr

/-- The fault of an end inside a bracket. -/
def Bracket.atEnd : Bracket → Cause
  | list => .endInList
  | object => .endInObject

/-- The fault of a missing comma inside a bracket. -/
def Bracket.noComma : Bracket → Cause
  | list => .expectedListComma
  | object => .expectedObjectComma

/-- Whether a character closes a bracket. -/
def Bracket.isClosedBy : Bracket → Char → Bool
  | list, c => c = ']'
  | object, c => c = '}'

/-- Passes over a value that is no list and no object, behind the white space before it. -/
def skipScalar (t : Text) : Except Fault Text :=
  match t with
  | [] => .error (faultAt .endInValue [])
  | 'n' :: rest => readWord "ull".toList rest
  | 't' :: rest => readWord "rue".toList rest
  | 'f' :: rest => readWord "alse".toList rest
  | '-' :: rest => skipNumber rest
  | '"' :: rest => skipString rest
  | c :: rest =>
    if c.isDigit then skipNumber (c :: rest) else .error (faultAfter .expectedValue (c :: rest))

/-- Passes over a key and its colon. -/
def skipKey (t : Text) : Except Fault Text :=
  match dropSpace t with
  | [] => .error (faultAt .endInObject [])
  | '"' :: rest =>
    match skipString rest with
    | .error f => .error f
    | .ok rest =>
      match dropSpace rest with
      | [] => .error (faultAt .endInObject [])
      | ':' :: rest => .ok rest
      | other => .error (faultAfter .expectedColon other)
  | other => .error (faultAfter .keyNotString other)

/-- Passes over what stands in front of the value of a member or element. -/
def skipLead (b : Bracket) (t : Text) : Except Fault Text :=
  match b with
  | .list => .ok t
  | .object => skipKey t

theorem length_of_skipScalar {t rest : Text} (h : skipScalar t = .ok rest) :
    rest.length < t.length := by
  unfold skipScalar at h
  split at h
  · cases h
  · have := length_of_readWord h
    simp only [List.length_cons]
    omega
  · have := length_of_readWord h
    simp only [List.length_cons]
    omega
  · have := length_of_readWord h
    simp only [List.length_cons]
    omega
  · have := length_of_skipNumber h
    simp only [List.length_cons]
    omega
  · have := length_of_skipString h
    simp only [List.length_cons]
    omega
  · split at h
    · exact length_of_skipNumber h
    · cases h

theorem length_of_skipKey {t rest : Text} (h : skipKey t = .ok rest) :
    rest.length < t.length := by
  unfold skipKey at h
  have hspace := length_dropSpace t
  split at h
  · cases h
  · next after hafter =>
    rw [hafter] at hspace
    split at h
    · cases h
    · next last hlast =>
      have hstring := length_of_skipString hlast
      have hlastSpace := length_dropSpace last
      split at h
      · cases h
      · next final hfinal =>
        simp only [Except.ok.injEq] at h
        rw [hfinal, h] at hlastSpace
        simp only [List.length_cons] at *
        omega
      · cases h
  · cases h

theorem length_of_skipLead {b : Bracket} {t rest : Text} (h : skipLead b t = .ok rest) :
    rest.length ≤ t.length := by
  cases b with
  | list =>
    simp only [skipLead, Except.ok.injEq] at h
    simp [h]
  | object => exact Nat.le_of_lt (length_of_skipKey h)

/-- Passes over values with the given brackets open, up to the end of the value that is open in
none of them. -/
def skipFrom (stage : Stage) (open_ : List Bracket) (t : Text) : Except Fault Text :=
  match stage, open_ with
  | .value, _ =>
    match _h : dropSpace t with
    | '[' :: rest => skipFrom .opened (.list :: open_) rest
    | '{' :: rest => skipFrom .opened (.object :: open_) rest
    | other =>
      match _hx : skipScalar other with
      | .error f => .error f
      | .ok rest => skipFrom .valueEnded open_ rest
  | .opened, [] => .ok t
  | .opened, b :: outer =>
    match _h : dropSpace t with
    | [] => .error (faultAt b.atEnd [])
    | c :: rest =>
      if b.isClosedBy c then skipFrom .valueEnded outer rest
      else
        match _hx : skipLead b (c :: rest) with
        | .error f => .error f
        | .ok rest => skipFrom .value (b :: outer) rest
  | .valueEnded, [] => .ok t
  | .valueEnded, b :: outer =>
    match _h : dropSpace t with
    | [] => .error (faultAt b.atEnd [])
    | c :: rest =>
      if c = ',' then
        match _hx : skipLead b rest with
        | .error f => .error f
        | .ok rest => skipFrom .value (b :: outer) rest
      else if b.isClosedBy c then skipFrom .valueEnded outer rest
      else .error (faultAfter b.noComma (c :: rest))
termination_by (t.length, if stage = .value then 0 else 1)
decreasing_by
  all_goals
    have hspace := length_dropSpace t
    rw [_h] at hspace
  · simp only [List.length_cons] at hspace
    exact Prod.Lex.left _ _ (by omega)
  · simp only [List.length_cons] at hspace
    exact Prod.Lex.left _ _ (by omega)
  · have := length_of_skipScalar _hx
    exact Prod.Lex.left _ _ (by omega)
  · simp only [List.length_cons] at hspace
    exact Prod.Lex.left _ _ (by omega)
  · have hlead := length_of_skipLead _hx
    simp only [List.length_cons] at hlead hspace
    rcases Nat.lt_or_eq_of_le (Nat.le_trans hlead hspace) with hlt | heq
    · exact Prod.Lex.left _ _ hlt
    · rw [heq]
      exact Prod.Lex.right _ (by simp)
  · have hlead := length_of_skipLead _hx
    simp only [List.length_cons] at hspace
    exact Prod.Lex.left _ _ (by omega)
  · simp only [List.length_cons] at hspace
    exact Prod.Lex.left _ _ (by omega)

/-- Passes over one value. -/
def skipValue (t : Text) : Except Fault Text := skipFrom .value [] t

theorem length_of_skipValue {t rest : Text} (h : skipValue t = .ok rest) :
    rest.length ≤ t.length := by
  have key : ∀ stage open_ (t rest : Text), skipFrom stage open_ t = .ok rest →
      rest.length ≤ t.length := by
    intro stage open_ t
    fun_induction skipFrom stage open_ t with
    | case1 open_ t after hs ih =>
      intro rest h
      have := ih rest h
      have := length_dropSpace t
      simp only [hs, List.length_cons] at this
      omega
    | case2 open_ t after hs ih =>
      intro rest h
      have := ih rest h
      have := length_dropSpace t
      simp only [hs, List.length_cons] at this
      omega
    | case3 => intro rest h; cases h
    | case4 open_ t other hs after hx ih =>
      intro rest h
      have := ih rest h
      have := length_dropSpace t
      have := length_of_skipScalar hx
      omega
    | case5 t => intro rest h; simp only [Except.ok.injEq] at h; simp [h]
    | case6 => intro rest h; cases h
    | case7 t b outer c after hs _ ih =>
      intro rest h
      have := ih rest h
      have := length_dropSpace t
      simp only [hs, List.length_cons] at this
      omega
    | case8 => intro rest h; cases h
    | case9 t b outer c after hs _ last hx ih =>
      intro rest h
      have := ih rest h
      have hspace := length_dropSpace t
      have hlead := length_of_skipLead hx
      simp only [hs, List.length_cons] at hspace hlead
      omega
    | case10 t => intro rest h; simp only [Except.ok.injEq] at h; simp [h]
    | case11 => intro rest h; cases h
    | case12 => intro rest h; cases h
    | case13 t b outer after last hx hs ih =>
      intro rest h
      have := ih rest h
      have hspace := length_dropSpace t
      have hlead := length_of_skipLead hx
      simp only [hs, List.length_cons] at hspace
      omega
    | case14 t b outer c after hs _ _ ih =>
      intro rest h
      have := ih rest h
      have := length_dropSpace t
      simp only [hs, List.length_cons] at this
      omega
    | case15 => intro rest h; cases h
  exact key _ _ _ _ h

end DeviceTwin.Json
