import DeviceTwin.Json.Fault

/-!
# JSON strings

`quote` writes a text as a JSON string: quotation marks and backslashes are escaped, control
characters have short escapes where JSON has one and are numbered otherwise, and everything else
stands for itself.  `readString` reads the rest of a string behind its opening mark and accepts
every escape of JSON; a character outside the first plane may be written as a pair of surrogates,
and a surrogate alone is refused.

`skipString` passes over a string that is not needed.  It checks the escapes by their form only,
so that it accepts lone surrogates.
-/

namespace DeviceTwin.Json

/-- How one character is written in a JSON string. -/
def escape (c : Char) : Text :=
  match c with
  | '"' => ['\\', '"']
  | '\\' => ['\\', '\\']
  | '\x08' => ['\\', 'b']
  | '\x0c' => ['\\', 'f']
  | '\n' => ['\\', 'n']
  | '\r' => ['\\', 'r']
  | '\t' => ['\\', 't']
  | c =>
    if c.toNat < 0x10 then "\\u000".toList ++ Numeral.renderHex c.toNat
    else if c.toNat < 0x20 then "\\u00".toList ++ Numeral.renderHex c.toNat
    else [c]

/-- A text as a JSON string. -/
def quote (t : Text) : Text := '"' :: t.flatMap escape ++ ['"']

/-- The value of four hexadecimal digits. -/
def hexUnit? (a b c d : Char) : Option Nat := do
  let a ← Text.Quoted.hexValue? a
  let b ← Text.Quoted.hexValue? b
  let c ← Text.Quoted.hexValue? c
  let d ← Text.Quoted.hexValue? d
  some (((a * 16 + b) * 16 + c) * 16 + d)

/-- What is wrong where four hexadecimal digits should stand.  Four bytes are looked at in any
case: it is an early end if there are fewer, and otherwise a fault behind them. -/
def hexFault (t : Text) : Fault :=
  if Utf8.size t < 4 then ⟨.endInString, 0⟩ else ⟨.invalidEscape, Utf8.size t - 4⟩

/-- Reads four hexadecimal digits. -/
def readHex (t : Text) : Except Fault (Nat × Text) :=
  match t with
  | a :: b :: c :: d :: rest =>
    match hexUnit? a b c d with
    | some n => .ok (n, rest)
    | none => .error (hexFault t)
  | _ => .error (hexFault t)

/-- Whether a number is the first half of a surrogate pair. -/
def isLeadingSurrogate (n : Nat) : Bool := 0xd800 ≤ n && n ≤ 0xdbff

/-- Whether a number is the second half of a surrogate pair. -/
def isTrailingSurrogate (n : Nat) : Bool := 0xdc00 ≤ n && n ≤ 0xdfff

/-- Reads a numbered escape behind its `\u`. -/
def readUnit (t : Text) : Except Fault (Char × Text) :=
  match readHex t with
  | .error f => .error f
  | .ok (n, rest) =>
    if isTrailingSurrogate n then .error (faultAt .loneSurrogate rest)
    else if isLeadingSurrogate n then
      match rest with
      | [] => .error (faultAt .endInString [])
      | '\\' :: [] => .error (faultAt .endInString [])
      | '\\' :: 'u' :: second =>
        match readHex second with
        | .error f => .error f
        | .ok (m, rest) =>
          if isTrailingSurrogate m then
            .ok (Char.ofNat (0x10000 + (n - 0xd800) * 0x400 + (m - 0xdc00)), rest)
          else .error (faultAt .loneSurrogate rest)
      | '\\' :: other => .error (faultAfter .unfinishedEscape other)
      | other => .error (faultAfter .unfinishedEscape other)
    else .ok (Char.ofNat n, rest)

/-- Reads an escape behind its backslash. -/
def readEscape (t : Text) : Except Fault (Char × Text) :=
  match t with
  | [] => .error (faultAt .endInString [])
  | '"' :: rest => .ok ('"', rest)
  | '\\' :: rest => .ok ('\\', rest)
  | '/' :: rest => .ok ('/', rest)
  | 'b' :: rest => .ok ('\x08', rest)
  | 'f' :: rest => .ok ('\x0c', rest)
  | 'n' :: rest => .ok ('\n', rest)
  | 'r' :: rest => .ok ('\r', rest)
  | 't' :: rest => .ok ('\t', rest)
  | 'u' :: rest => readUnit rest
  | other => .error (faultAfter .invalidEscape other)

/-- Passes over an escape behind its backslash. -/
def skipEscape (t : Text) : Except Fault Text :=
  match t with
  | 'u' :: rest =>
    match readHex rest with
    | .error f => .error f
    | .ok (_, rest) => .ok rest
  | other =>
    match readEscape other with
    | .error f => .error f
    | .ok (_, rest) => .ok rest

/-! ## Reading makes progress -/

theorem length_of_readHex {t rest : Text} {n : Nat} (h : readHex t = .ok (n, rest)) :
    rest.length < t.length := by
  unfold readHex at h
  split at h
  · split at h
    · simp only [Except.ok.injEq, Prod.mk.injEq] at h
      simp only [List.length_cons, ← h.2]
      omega
    · cases h
  · cases h

theorem length_of_readUnit {t rest : Text} {c : Char} (h : readUnit t = .ok (c, rest)) :
    rest.length < t.length := by
  unfold readUnit at h
  split at h
  · cases h
  · next n after hn =>
    have hafter := length_of_readHex hn
    split at h
    · cases h
    · split at h
      · split at h
        · cases h
        · cases h
        · next second =>
          split at h
          · cases h
          · next m last hm =>
            have hlast := length_of_readHex hm
            split at h
            · simp only [Except.ok.injEq, Prod.mk.injEq] at h
              simp only [List.length_cons, ← h.2] at *
              omega
            · cases h
        · cases h
        · cases h
      · simp only [Except.ok.injEq, Prod.mk.injEq] at h
        simpa [← h.2] using hafter

theorem length_of_readEscape {t rest : Text} {c : Char} (h : readEscape t = .ok (c, rest)) :
    rest.length < t.length := by
  unfold readEscape at h
  split at h
  case h_10 after =>
    have := length_of_readUnit h
    simp only [List.length_cons]
    omega
  all_goals first
    | cases h; done
    | (simp only [Except.ok.injEq, Prod.mk.injEq] at h
       simp [← h.2])

theorem length_of_skipEscape {t rest : Text} (h : skipEscape t = .ok rest) :
    rest.length < t.length := by
  unfold skipEscape at h
  split at h
  · next after =>
    split at h
    · cases h
    · next n last hx =>
      have := length_of_readHex hx
      simp only [Except.ok.injEq] at h
      simp only [List.length_cons, ← h]
      omega
  · split at h
    · cases h
    · next c last hx =>
      have := length_of_readEscape hx
      simp only [Except.ok.injEq] at h
      simpa [← h] using this

/-! ## Strings -/

/-- Reads a string behind its opening mark: the text, and what follows the closing mark. -/
def readString (t : Text) : Except Fault (Text × Text) :=
  match t with
  | [] => .error (faultAt .endInString [])
  | '"' :: rest => .ok ([], rest)
  | '\\' :: after =>
    match _h : readEscape after with
    | .error f => .error f
    | .ok (c, rest) => (readString rest).map fun (text, rest) => (c :: text, rest)
  | c :: rest =>
    if c.toNat < 0x20 then .error (faultAfter .controlCharacter (c :: rest))
    else (readString rest).map fun (text, rest) => (c :: text, rest)
termination_by t.length
decreasing_by
  · have := length_of_readEscape _h
    simp only [List.length_cons]
    omega
  · simp

/-- Passes over a string behind its opening mark. -/
def skipString (t : Text) : Except Fault Text :=
  match t with
  | [] => .error (faultAt .endInString [])
  | '"' :: rest => .ok rest
  | '\\' :: after =>
    match _h : skipEscape after with
    | .error f => .error f
    | .ok rest => skipString rest
  | c :: rest =>
    if c.toNat < 0x20 then .error (faultAt .controlCharacter (c :: rest)) else skipString rest
termination_by t.length
decreasing_by
  · have := length_of_skipEscape _h
    simp only [List.length_cons]
    omega
  · simp

theorem length_of_readString {t rest text : Text} (h : readString t = .ok (text, rest)) :
    rest.length < t.length := by
  induction t using readString.induct generalizing text rest with
  | case1 => simp [readString] at h
  | case2 after =>
    simp only [readString, Except.ok.injEq, Prod.mk.injEq] at h
    simp [h.2]
  | case3 after f hf =>
    rw [readString] at h
    split at h
    · cases h
    · next x y hx => simp [hf] at hx
  | case4 after c x hx ih =>
    rw [readString] at h
    split at h
    · cases h
    · next d y hy =>
      have hxy : c = d ∧ x = y := by simpa [hx] using hy
      obtain ⟨rfl, rfl⟩ := hxy
      cases hr : readString x with
      | error f => simp [hr, Except.map] at h
      | ok r =>
        obtain ⟨text', rest'⟩ := r
        simp only [hr, Except.map, Except.ok.injEq, Prod.mk.injEq] at h
        have := ih hr
        have := length_of_readEscape hx
        simp only [List.length_cons, ← h.2]
        omega
  | case5 c after _ _ hc =>
    rw [readString] at h <;> simp_all
  | case6 c after _ _ hc ih =>
    rw [readString] at h
    · simp only [hc, if_false] at h
      cases hr : readString after with
      | error f => simp [hr, Except.map] at h
      | ok r =>
        obtain ⟨text', rest'⟩ := r
        simp only [hr, Except.map, Except.ok.injEq, Prod.mk.injEq] at h
        have := ih hr
        simp only [List.length_cons, ← h.2]
        omega
    all_goals simp_all

theorem length_of_skipString {t rest : Text} (h : skipString t = .ok rest) :
    rest.length < t.length := by
  induction t using skipString.induct generalizing rest with
  | case1 => simp [skipString] at h
  | case2 after =>
    simp only [skipString, Except.ok.injEq] at h
    simp [h]
  | case3 after f hf =>
    rw [skipString] at h
    split at h
    · cases h
    · next x hx => simp [hf] at hx
  | case4 after x hx ih =>
    rw [skipString] at h
    split at h
    · cases h
    · next y hy =>
      have hxy : x = y := by simpa [hx] using hy
      subst hxy
      have := ih h
      have := length_of_skipEscape hx
      simp only [List.length_cons]
      omega
  | case5 c after _ _ hc =>
    rw [skipString] at h <;> simp_all
  | case6 c after _ _ hc ih =>
    rw [skipString] at h
    · simp only [hc, if_false] at h
      have := ih h
      simp only [List.length_cons]
      omega
    all_goals simp_all

end DeviceTwin.Json
