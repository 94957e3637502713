import DeviceTwin.Decimal.Shortest
import DeviceTwin.Json.Fault

/-!
# JSON numbers

A number is read as an integer as long as it has neither a point nor an exponent and fits into 64
bits; negative zero and everything else become binary floating point numbers.

Digits are collected up to the last one with which they still fit into 64 bits; further digits
before the point only count as powers of ten, and further ones behind it are passed over.  What
has been collected is rounded, and then multiplied with or divided by a rounded power of ten, so
the result may differ from the nearest number in the last place.

`skipNumber` passes over a number of any size.
-/

namespace DeviceTwin.Json

/-- A number that has been read. -/
inductive Number where
  /-- A natural number below `2 ^ 64`. -/
  | whole (n : Nat)
  /-- The negative of a number from 1 to `2 ^ 63`. -/
  | negative (n : Nat)
  /-- A floating point number and whether it has a minus sign. -/
  | float (minus : Bool) (x : Binary64)
  deriving DecidableEq, Repr

/-- How a number is described in a fault. -/
def Number.found : Number → Found
  | whole n => .integer (Numeral.render n)
  | negative n => .integer ('-' :: Numeral.render n)
  | float minus x => .float ((if minus then ['-'] else []) ++ x.render)

/-- The text behind the digits at its start. -/
def dropDigits (t : Text) : Text := t.dropWhile Char.isDigit

theorem length_dropDigits (t : Text) : (dropDigits t).length ≤ t.length :=
  (List.dropWhile_sublist _).length_le

/-! ## Passing over numbers -/

/-- Passes over digits, of which there must be one. -/
def skipDigits : Text → Except Fault Text
  | [] => .error (faultAt .invalidNumber [])
  | c :: rest =>
    if c.isDigit then .ok (dropDigits rest) else .error (faultAfter .invalidNumber (c :: rest))

/-- Passes over an exponent behind its letter. -/
def skipExponent : Text → Except Fault Text
  | '+' :: rest => skipDigits rest
  | '-' :: rest => skipDigits rest
  | t => skipDigits t

/-- Passes over an exponent, if there is one. -/
def skipOptionalExponent (t : Text) : Except Fault Text :=
  match t with
  | 'e' :: rest => skipExponent rest
  | 'E' :: rest => skipExponent rest
  | t => .ok t

/-- Passes over what may follow the digits before the point. -/
def skipFraction (t : Text) : Except Fault Text :=
  match t with
  | '.' :: rest =>
    if (dropDigits rest).length = rest.length then .error (faultAfter .invalidNumber rest)
    else skipOptionalExponent (dropDigits rest)
  | t => skipOptionalExponent t

/-- Passes over a number behind its sign. -/
def skipNumber (t : Text) : Except Fault Text :=
  match t with
  | [] => .error (faultAt .invalidNumber [])
  | '0' :: rest =>
    match rest with
    | d :: _ => if d.isDigit then .error (faultAfter .invalidNumber rest) else skipFraction rest
    | [] => .ok []
  | c :: rest =>
    if c.isDigit then skipFraction (dropDigits rest)
    else .error (faultAfter .invalidNumber (c :: rest))

theorem length_of_skipDigits {t rest : Text} (h : skipDigits t = .ok rest) :
    rest.length ≤ t.length := by
  unfold skipDigits at h
  split at h
  · cases h
  · next c after =>
    split at h
    · simp only [Except.ok.injEq] at h
      have := length_dropDigits after
      rw [h] at this
      simp only [List.length_cons]
      omega
    · cases h

theorem length_of_skipExponent {t rest : Text} (h : skipExponent t = .ok rest) :
    rest.length ≤ t.length := by
  unfold skipExponent at h
  split at h
  · have := length_of_skipDigits h
    simp only [List.length_cons]
    omega
  · have := length_of_skipDigits h
    simp only [List.length_cons]
    omega
  · exact length_of_skipDigits h

theorem length_of_skipOptionalExponent {t rest : Text} (h : skipOptionalExponent t = .ok rest) :
    rest.length ≤ t.length := by
  unfold skipOptionalExponent at h
  split at h
  · have := length_of_skipExponent h
    simp only [List.length_cons]
    omega
  · have := length_of_skipExponent h
    simp only [List.length_cons]
    omega
  · simp only [Except.ok.injEq] at h
    simp [h]

theorem length_of_skipFraction {t rest : Text} (h : skipFraction t = .ok rest) :
    rest.length ≤ t.length := by
  unfold skipFraction at h
  split at h
  · next after =>
    split at h
    · cases h
    · have := length_of_skipOptionalExponent h
      have := length_dropDigits after
      simp only [List.length_cons]
      omega
  · exact length_of_skipOptionalExponent h

theorem length_of_skipNumber {t rest : Text} (h : skipNumber t = .ok rest) :
    rest.length < t.length := by
  unfold skipNumber at h
  split at h
  · cases h
  · split at h
    · split at h
      · cases h
      · have := length_of_skipFraction h
        simp only [List.length_cons] at *
        omega
    · simp only [Except.ok.injEq] at h
      simp [← h]
  · next c after _ =>
    split at h
    · have := length_of_skipFraction h
      have := length_dropDigits after
      simp only [List.length_cons]
      omega
    · cases h

/-! ## Reading numbers -/

/-- The value of a decimal digit. -/
def digitValue (c : Char) : Nat := c.toNat - '0'.toNat

/-- Values from here on do not fit into 64 bits. -/
def wordLimit : Nat := Nat.pow 2 64

/-- Values from here on do not fit into 64 bits with a sign. -/
def signedLimit : Nat := Nat.pow 2 63

/-- Exponents from here on are too large to be told apart. -/
def exponentLimit : Nat := Nat.pow 2 31

/-- The digits at the start of a text on top of those collected so far, as long as the value fits
into 64 bits; with the value go how many digits were added and the text behind them. -/
def collect (value count : Nat) : Text → Nat × Nat × Text
  | [] => (value, count, [])
  | c :: rest =>
    if c.isDigit && value * 10 + digitValue c < wordLimit then
      collect (value * 10 + digitValue c) (count + 1) rest
    else (value, count, c :: rest)

/-- The number `10 ^ n`, rounded. -/
def powerOfTen (n : Nat) : Option Binary64 := Binary64.ofNat (Nat.pow 10 n)

/-- Scales a number by a power of ten.  Powers beyond `10 ^ 308` are out of range, and divisions
by such powers are done in steps; `fuel` bounds the number of steps. -/
def scale : Nat → Binary64 → Int → Option Binary64
  | 0, _, _ => none
  | fuel + 1, x, exponent =>
    if exponent.natAbs ≤ 308 then do
      let power ← powerOfTen exponent.natAbs
      if 0 ≤ exponent then x.mul power else x.div power
    else if x.mantissa = 0 then some x
    else if 0 ≤ exponent then none
    else do
      let power ← powerOfTen 308
      scale fuel (← x.div power) (exponent + 308)

/-- The number `significand * 10 ^ exponent` in front of the unread text. -/
def fromParts (minus : Bool) (significand : Nat) (exponent : Int) (rest : Text) :
    Except Fault (Number × Text) :=
  match (Binary64.ofNat significand).bind fun x => scale (exponent.natAbs / 308 + 2) x exponent with
  | some x => .ok (.float minus x, rest)
  | none => .error (faultAt .numberOutOfRange rest)

/-- Reads the digits of an exponent on top of those read so far, or tells where they became too
large. -/
def readExponentDigits (value : Nat) : Text → Except Text (Nat × Text)
  | [] => .ok (value, [])
  | c :: rest =>
    if c.isDigit then
      if value * 10 + digitValue c < exponentLimit then
        readExponentDigits (value * 10 + digitValue c) rest
      else .error rest
    else .ok (value, c :: rest)

/-- Reads the digits of an exponent behind its sign; `start` is the exponent so far. -/
def readUnsigned (minus negative : Bool) (significand : Nat) (start : Int) :
    Text → Except Fault (Number × Text)
  | [] => .error (faultAt .endInValue [])
  | c :: rest =>
    if c.isDigit then
      match readExponentDigits (digitValue c) rest with
      | .ok (e, rest) =>
        fromParts minus significand (if negative then start - e else start + e) rest
      | .error rest =>
        if significand ≠ 0 ∧ !negative then .error (faultAt .numberOutOfRange rest)
        else .ok (.float minus .zero, dropDigits rest)
    else .error (faultAfter .invalidNumber (c :: rest))

/-- Reads an exponent behind its letter; `start` is the exponent so far. -/
def readExponent (minus : Bool) (significand : Nat) (start : Int) :
    Text → Except Fault (Number × Text)
  | '+' :: rest => readUnsigned minus false significand start rest
  | '-' :: rest => readUnsigned minus true significand start rest
  | t => readUnsigned minus false significand start t

/-- Reads what may follow the digits: an exponent, or nothing. -/
def readOptionalExponent (minus : Bool) (significand : Nat) (start : Int) (t : Text) :
    Except Fault (Number × Text) :=
  match t with
  | 'e' :: rest => readExponent minus significand start rest
  | 'E' :: rest => readExponent minus significand start rest
  | t => fromParts minus significand start t

/-- Reads the digits behind the point. -/
def readFraction (minus : Bool) (significand : Nat) (start : Int) (t : Text) :
    Except Fault (Number × Text) :=
  let (value, count, rest) := collect significand 0 t
  match rest with
  | [] =>
    if count = 0 then .error (faultAt .endInValue [])
    else readOptionalExponent minus value (start - count) []
  | c :: _ =>
    if c.isDigit then readOptionalExponent minus value (start - count) (dropDigits rest)
    else if count = 0 then .error (faultAfter .invalidNumber rest)
    else readOptionalExponent minus value (start - count) rest

/-- Reads what follows the digits of a number that fits into 64 bits. -/
def readTail (minus : Bool) (significand : Nat) (t : Text) : Except Fault (Number × Text) :=
  match t with
  | '.' :: rest => readFraction minus significand 0 rest
  | 'e' :: rest => readExponent minus significand 0 rest
  | 'E' :: rest => readExponent minus significand 0 rest
  | rest =>
    if !minus then .ok (.whole significand, rest)
    else if 0 < significand ∧ significand ≤ signedLimit then .ok (.negative significand, rest)
    else fromParts true significand 0 rest

/-- Reads what follows the collected digits of a number that does not fit into 64 bits. -/
def readLong (minus : Bool) (significand : Nat) (t : Text) : Except Fault (Number × Text) :=
  let rest := dropDigits t
  let start : Int := t.length - rest.length
  match rest with
  | '.' :: rest => readFraction minus significand start rest
  | rest => readOptionalExponent minus significand start rest

/-- Reads a number behind its sign. -/
def readNumber (minus : Bool) (t : Text) : Except Fault (Number × Text) :=
  match t with
  | [] => .error (faultAt .endInValue [])
  | '0' :: rest =>
    match rest with
    | d :: _ =>
      if d.isDigit then .error (faultAfter .invalidNumber rest) else readTail minus 0 rest
    | [] => readTail minus 0 []
  | c :: rest =>
    if c.isDigit then
      let (value, _, rest) := collect (digitValue c) 1 rest
      match rest with
      | d :: _ => if d.isDigit then readLong minus value rest else readTail minus value rest
      | [] => readTail minus value []
    else .error (faultAfter .invalidNumber (c :: rest))

/-! ## Reading makes progress -/

theorem length_of_collect {value count : Nat} {t rest : Text} {v c : Nat}
    (h : collect value count t = (v, c, rest)) : rest.length ≤ t.length := by
  induction t generalizing value count with
  | nil =>
    simp only [collect, Prod.mk.injEq] at h
    simp [← h.2.2]
  | cons d t ih =>
    simp only [collect] at h
    split at h
    · have := ih h
      simp only [List.length_cons]
      omega
    · simp only [Prod.mk.injEq] at h
      simp [← h.2.2]

theorem rest_of_fromParts {minus : Bool} {s : Nat} {e : Int} {t rest : Text} {n : Number}
    (h : fromParts minus s e t = .ok (n, rest)) : rest = t := by
  unfold fromParts at h
  split at h
  · simp only [Except.ok.injEq, Prod.mk.injEq] at h
    exact h.2.symm
  · cases h

theorem length_of_readExponentDigits {value : Nat} {t : Text} :
    (∀ {v rest}, readExponentDigits value t = .ok (v, rest) → rest.length ≤ t.length) ∧
      ∀ {rest}, readExponentDigits value t = .error rest → rest.length ≤ t.length := by
  induction t generalizing value with
  | nil => simp [readExponentDigits]
  | cons c t ih =>
    simp only [readExponentDigits]
    split
    · split
      · refine ⟨fun h => ?_, fun h => ?_⟩
        · have := ih.1 h
          simp only [List.length_cons]
          omega
        · have := ih.2 h
          simp only [List.length_cons]
          omega
      · refine ⟨nofun, fun h => ?_⟩
        simp only [Except.error.injEq] at h
        simp [← h]
    · refine ⟨fun h => ?_, nofun⟩
      simp only [Except.ok.injEq, Prod.mk.injEq] at h
      simp [← h.2]

theorem length_of_readUnsigned {minus negative : Bool} {s : Nat} {e : Int} {t rest : Text}
    {n : Number} (h : readUnsigned minus negative s e t = .ok (n, rest)) :
    rest.length ≤ t.length := by
  unfold readUnsigned at h
  split at h
  · cases h
  · next c after =>
    simp only [List.length_cons]
    split at h
    · split at h
      · next x last hlast =>
        have := length_of_readExponentDigits.1 hlast
        rw [rest_of_fromParts h]
        omega
      · next last hlast =>
        have := length_of_readExponentDigits.2 hlast
        split at h
        · cases h
        · simp only [Except.ok.injEq, Prod.mk.injEq] at h
          have := length_dropDigits last
          rw [h.2] at this
          omega
    · cases h

theorem length_of_readExponent {minus : Bool} {s : Nat} {e : Int} {t rest : Text} {n : Number}
    (h : readExponent minus s e t = .ok (n, rest)) : rest.length ≤ t.length := by
  unfold readExponent at h
  split at h
  · have := length_of_readUnsigned h
    simp only [List.length_cons]
    omega
  · have := length_of_readUnsigned h
    simp only [List.length_cons]
    omega
  · exact length_of_readUnsigned h

theorem length_of_readOptionalExponent {minus : Bool} {s : Nat} {e : Int} {t rest : Text}
    {n : Number} (h : readOptionalExponent minus s e t = .ok (n, rest)) :
    rest.length ≤ t.length := by
  unfold readOptionalExponent at h
  split at h
  · have := length_of_readExponent h
    simp only [List.length_cons]
    omega
  · have := length_of_readExponent h
    simp only [List.length_cons]
    omega
  · simp [rest_of_fromParts h]

theorem length_of_readFraction {minus : Bool} {s : Nat} {e : Int} {t rest : Text} {n : Number}
    (h : readFraction minus s e t = .ok (n, rest)) : rest.length ≤ t.length := by
  unfold readFraction at h
  split at h
  next value count after hc =>
  have hafter := length_of_collect hc
  split at h
  · split at h
    · cases h
    · have := length_of_readOptionalExponent h
      simp only [List.length_nil] at this
      omega
  · split at h
    · next c tail _ =>
      have := length_of_readOptionalExponent h
      have := length_dropDigits (c :: tail)
      omega
    · split at h
      · cases h
      · have := length_of_readOptionalExponent h
        omega

theorem length_of_readTail {minus : Bool} {s : Nat} {t rest : Text} {n : Number}
    (h : readTail minus s t = .ok (n, rest)) : rest.length ≤ t.length := by
  unfold readTail at h
  split at h
  · have := length_of_readFraction h
    simp only [List.length_cons]
    omega
  · have := length_of_readExponent h
    simp only [List.length_cons]
    omega
  · have := length_of_readExponent h
    simp only [List.length_cons]
    omega
  · split at h
    · simp only [Except.ok.injEq, Prod.mk.injEq] at h
      simp [h.2]
    · split at h
      · simp only [Except.ok.injEq, Prod.mk.injEq] at h
        simp [h.2]
      · simp [rest_of_fromParts h]

theorem length_of_readLong {minus : Bool} {s : Nat} {t rest : Text} {n : Number}
    (h : readLong minus s t = .ok (n, rest)) : rest.length ≤ t.length := by
  have hdrop := length_dropDigits t
  simp only [readLong] at h
  split at h
  · next after hafter =>
    have := length_of_readFraction h
    rw [hafter] at hdrop
    simp only [List.length_cons] at hdrop
    omega
  · have := length_of_readOptionalExponent h
    omega

theorem length_of_readNumber {minus : Bool} {t rest : Text} {n : Number}
    (h : readNumber minus t = .ok (n, rest)) : rest.length < t.length := by
  unfold readNumber at h
  split at h
  · cases h
  · split at h
    · split at h
      · cases h
      · have := length_of_readTail h
        simp only [List.length_cons] at *
        omega
    · have := length_of_readTail h
      simp only [List.length_cons, List.length_nil] at *
      omega
  · next c after _ =>
    split at h
    · split at h
      next value count last hc =>
      have := length_of_collect hc
      split at h
      · split at h
        · have := length_of_readLong h
          simp only [List.length_cons] at *
          omega
        · have := length_of_readTail h
          simp only [List.length_cons] at *
          omega
      · have := length_of_readTail h
        simp only [List.length_cons, List.length_nil] at *
        omega
    · cases h

end DeviceTwin.Json
