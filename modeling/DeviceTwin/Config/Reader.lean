import DeviceTwin.Config.Notation

/-!
# Reading configurations

The members of an object are read one after the other until the bracket closes, and so are the
values of a list.  Every member takes at least one character, which is why reading ends.
-/

namespace DeviceTwin.Config

open Json

/-! ## Reading a member makes progress -/

theorem rest_length_of_map {α β : Type} {x : Except Fault (α × Text)} {f : α × Text → β × Text}
    {t rest : Text} {b : β} (h : x.map f = .ok (b, rest)) (hf : ∀ p, (f p).2 = p.2)
    (hx : ∀ a rest, x = .ok (a, rest) → rest.length ≤ t.length) : rest.length ≤ t.length := by
  cases x with
  | error e => cases h
  | ok p =>
    simp only [Except.map, Except.ok.injEq] at h
    have hrest : rest = p.2 := by simpa [h] using hf p
    exact hrest ▸ hx p.1 p.2 rfl

theorem length_of_readText {e : Expected} {t rest text : Text}
    (h : readText e t = .ok (text, rest)) : rest.length ≤ t.length := by
  have hspace := length_dropSpace t
  unfold readText at h
  split at h
  · cases h
  · next after hafter =>
    have := length_of_readString h
    simp only [hafter, List.length_cons] at hspace
    omega
  · cases h

theorem length_of_readFlag {t rest : Text} {b : Bool} (h : readFlag t = .ok (b, rest)) :
    rest.length ≤ t.length := by
  have hspace := length_dropSpace t
  unfold readFlag at h
  split at h
  · cases h
  · next after hafter =>
    split at h
    · cases h
    · next last hw =>
      have := length_of_readWord hw
      simp only [Except.ok.injEq, Prod.mk.injEq] at h
      simp only [hafter, List.length_cons] at hspace
      rw [← h.2]
      omega
  · next after hafter =>
    split at h
    · cases h
    · next last hw =>
      have := length_of_readWord hw
      simp only [Except.ok.injEq, Prod.mk.injEq] at h
      simp only [hafter, List.length_cons] at hspace
      rw [← h.2]
      omega
  · cases h

theorem rest_of_countOfNumber {n : Number} {t rest : Text} {c : UInt64}
    (h : countOfNumber n t = .ok (c, rest)) : rest = t := by
  cases n with
  | whole n =>
    simp only [countOfNumber, Except.ok.injEq, Prod.mk.injEq] at h
    exact h.2.symm
  | negative n => cases h
  | float minus x => cases h

theorem length_of_readCount {t rest : Text} {c : UInt64} (h : readCount t = .ok (c, rest)) :
    rest.length ≤ t.length := by
  have hspace := length_dropSpace t
  unfold readCount at h
  split at h
  · cases h
  · next after hafter =>
    split at h
    · cases h
    · next n last hn =>
      have := length_of_readNumber hn
      simp only [hafter, List.length_cons] at hspace
      rw [rest_of_countOfNumber h]
      omega
  · next c' after _ hafter =>
    split at h
    · split at h
      · cases h
      · next n last hn =>
        have := length_of_readNumber hn
        simp only [hafter, List.length_cons] at hspace this
        rw [rest_of_countOfNumber h]
        omega
    · cases h

theorem length_of_readWordOfVerbosity {t rest : Text} {v : Log.Verbosity}
    (h : readWordOfVerbosity t = .ok (v, rest)) : rest.length ≤ t.length := by
  unfold readWordOfVerbosity at h
  split at h
  · cases h
  · next word last hw =>
    split at h
    · simp only [Except.ok.injEq, Prod.mk.injEq] at h
      exact h.2 ▸ length_of_readText hw
    · cases h

theorem length_of_readColon {t rest : Text} (h : readColon t = .ok rest) :
    rest.length ≤ t.length := by
  have hspace := length_dropSpace t
  unfold readColon at h
  split at h
  · cases h
  · next after hafter =>
    simp only [Except.ok.injEq] at h
    simp only [hafter, h, List.length_cons] at hspace
    omega
  · cases h

theorem length_of_readNull {t rest : Text} (h : readNull t = .ok rest) :
    rest.length ≤ t.length := by
  have hspace := length_dropSpace t
  unfold readNull at h
  split at h
  · cases h
  · next after hafter =>
    have := length_of_readWord h
    simp only [hafter, List.length_cons] at hspace
    omega
  · cases h

theorem length_of_readObjectOfVerbosity {t rest : Text} {v : Log.Verbosity}
    (h : readObjectOfVerbosity t = .ok (v, rest)) : rest.length ≤ t.length := by
  unfold readObjectOfVerbosity at h
  split at h
  · cases h
  · next v' r₁ h₁ =>
    have := length_of_readWordOfVerbosity h₁
    split at h
    · cases h
    · next r₂ h₂ =>
      have := length_of_readColon h₂
      split at h
      · cases h
      · next r₃ h₃ =>
        have := length_of_readNull h₃
        have hspace := length_dropSpace r₃
        split at h
        · cases h
        · next r₄ h₄ =>
          simp only [Except.ok.injEq, Prod.mk.injEq] at h
          simp only [h₄, List.length_cons] at hspace
          rw [← h.2]
          omega
        · cases h

theorem length_of_readVerbosity {t rest : Text} {v : Log.Verbosity}
    (h : readVerbosity t = .ok (v, rest)) : rest.length ≤ t.length := by
  have hspace := length_dropSpace t
  unfold readVerbosity at h
  split at h
  · cases h
  · next after hafter =>
    have := length_of_readObjectOfVerbosity h
    simp only [hafter, List.length_cons] at hspace
    omega
  · next after hafter =>
    have := length_of_readWordOfVerbosity h
    simp only [hafter, List.length_cons] at hspace this
    omega
  · cases h

theorem length_of_readValue {d d' : Draft} {k : Key} {t rest : Text}
    (h : readValue d k t = .ok (d', rest)) : rest.length ≤ t.length := by
  cases k with
  | remoteName =>
    simp only [readValue] at h
    exact rest_length_of_map h (fun _ => rfl) (fun _ _ => length_of_readText)
  | connectOnLaunch =>
    simp only [readValue] at h
    exact rest_length_of_map h (fun _ => rfl) (fun _ _ => length_of_readFlag)
  | startOnLaunch =>
    simp only [readValue] at h
    exact rest_length_of_map h (fun _ => rfl) (fun _ _ => length_of_readFlag)
  | logLevel =>
    simp only [readValue] at h
    exact rest_length_of_map h (fun _ => rfl) (fun _ _ => length_of_readVerbosity)
  | eventBuffer =>
    simp only [readValue] at h
    exact rest_length_of_map h (fun _ => rfl) (fun _ _ => length_of_readCount)

theorem length_of_readMember {d d' : Draft} {t rest : Text}
    (h : readMember d t = .ok (d', rest)) : rest.length < t.length := by
  unfold readMember at h
  split at h
  · cases h
  · next name r₁ h₁ =>
    have := length_of_readString h₁
    split at h
    · split at h
      · cases h
      · next r₂ h₂ =>
        have := length_of_readColon h₂
        cases hs : skipValue r₂ with
        | error f => simp [hs, Except.map] at h
        | ok r₃ =>
          have := length_of_skipValue hs
          simp only [hs, Except.map, Except.ok.injEq, Prod.mk.injEq] at h
          rw [← h.2]
          omega
    · split at h
      · cases h
      · split at h
        · cases h
        · next r₂ h₂ =>
          have := length_of_readColon h₂
          have := length_of_readValue h
          omega

/-! ## Objects -/

/-- Reads what follows a member: more of them after a comma, or the closing bracket. -/
def readMembers (d : Draft) (t : Text) : Except Fault (Draft × Text) :=
  match _h : dropSpace t with
  | [] => .error (faultAt .endInObject [])
  | '}' :: rest => .ok (d, rest)
  | ',' :: after =>
    match _hs : dropSpace after with
    | [] => .error (faultAt .endInValue [])
    | '}' :: rest => .error (faultAfter .trailingComma ('}' :: rest))
    | '"' :: member =>
      match _hm : readMember d member with
      | .error f => .error f
      | .ok (d, rest) => readMembers d rest
    | other => .error (faultAfter .keyNotString other)
  | other => .error (faultAfter .expectedObjectComma other)
termination_by t.length
decreasing_by
  have h₁ := length_dropSpace t
  have h₂ := length_dropSpace after
  have h₃ := length_of_readMember _hm
  simp only [_h, _hs, List.length_cons] at h₁ h₂
  omega

/-- Reads an object behind its opening bracket. -/
def readObject (t : Text) : Except Fault (Draft × Text) :=
  match dropSpace t with
  | [] => .error (faultAt .endInObject [])
  | '}' :: rest => .ok ({}, rest)
  | '"' :: member =>
    match readMember {} member with
    | .error f => .error f
    | .ok (d, rest) => readMembers d rest
  | other => .error (faultAfter .keyNotString other)

/-! ## Lists -/

/-- Reads the end of a list in which all values have been read. -/
def readListEnd (d : Draft) (t : Text) : Except Fault (Draft × Text) :=
  match dropSpace t with
  | [] => .error (faultAt .endInList [])
  | ']' :: rest => .ok (d, rest)
  | ',' :: after =>
    match dropSpace after with
    | ']' :: rest => .error (faultAfter .trailingComma (']' :: rest))
    | other => .error (faultAfter .trailingCharacters other)
  | other => .error (faultAfter .trailingCharacters other)

/-- Reads the values that follow a value: those under the given keys, as many as there are. -/
def readElements (d : Draft) (t : Text) : List Key → Except Fault (Draft × Text)
  | [] => readListEnd d t
  | k :: keys =>
    match dropSpace t with
    | [] => .error (faultAt .endInList [])
    | ']' :: rest => .ok (d, rest)
    | ',' :: after =>
      match dropSpace after with
      | [] => .error (faultAt .endInValue [])
      | ']' :: rest => .error (faultAfter .trailingComma (']' :: rest))
      | other =>
        match readValue d k other with
        | .error f => .error f
        | .ok (d, rest) => readElements d rest keys
    | other => .error (faultAfter .expectedListComma other)

/-- Reads a list behind its opening bracket. -/
def readList (t : Text) : Except Fault (Draft × Text) :=
  match dropSpace t with
  | [] => .error (faultAt .endInList [])
  | ']' :: rest => .ok ({}, rest)
  | other =>
    match readValue {} .remoteName other with
    | .error f => .error f
    | .ok (d, rest) => readElements d rest (Key.all.drop 1)

/-! ## Whole texts -/

/-- Reads an object or a list behind white space. -/
def readDraft (t : Text) : Except Fault (Draft × Text) :=
  match dropSpace t with
  | [] => .error (faultAt .endInValue [])
  | '[' :: rest => readList rest
  | '{' :: rest => readObject rest
  | other => .error (mismatch .config other)

/-- Reads a text that holds a configuration and nothing else. -/
def parse (t : Text) : Except Json.Error Config :=
  match readDraft t with
  | .error f => .error (f.locate t)
  | .ok (d, rest) =>
    match dropSpace rest with
    | [] => .ok d.complete
    | other => .error ((faultAfter .trailingCharacters other).locate t)

end DeviceTwin.Config
