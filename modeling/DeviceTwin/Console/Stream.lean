import DeviceTwin.Files.Fault

/-!
# Input and output of a session

Input comes in pieces that may be cut anywhere.  `splitLines` takes the complete lines out of a
sequence of bytes, each with the line feed that ends it, and leaves the unfinished one.  Output
goes to a sink that may have room for a limited number of bytes only, and may pass on what has been
written a limited number of times only.
-/

namespace DeviceTwin.Console

/-- The byte that ends a line. -/
def lineFeed : UInt8 := 10

/-- The complete lines in a sequence of bytes, and what follows the last of them. -/
def splitLines : Bytes → List Bytes × Bytes
  | [] => ([], [])
  | b :: rest =>
    if b = lineFeed then ([b] :: (splitLines rest).1, (splitLines rest).2)
    else
      match splitLines rest with
      | ([], last) => ([], b :: last)
      | (line :: lines, last) => ((b :: line) :: lines, last)

/-- A line without its end: a line feed, or a carriage return and a line feed. -/
def dropEnd (line : Text) : Text :=
  if line.getLast? = some '\n' then
    let line := line.dropLast
    if line.getLast? = some '\r' then line.dropLast else line
  else line

/-- Where output goes. -/
structure Sink where
  /-- What has been written. -/
  written : Bytes := []
  /-- How many more bytes are taken, if that is limited. -/
  room : Option Nat := none
  /-- How many more times what has been written is passed on, if that is limited. -/
  flushes : Option Nat := none
  /-- What is wrong once no more bytes are taken, or they are not passed on any more. -/
  fault : Files.Fault := .writeZero
  deriving DecidableEq, Repr

/-- Writes bytes as far as there is room, and says whether there was room for all of them. -/
def Sink.write (s : Sink) (bytes : Bytes) : Sink × Bool :=
  match s.room with
  | none => ({ s with written := s.written ++ bytes }, true)
  | some room =>
    ({ s with written := s.written ++ bytes.take room, room := some (room - bytes.length) },
      bytes.length ≤ room)

/-- Passes on what has been written, and says whether that was done. -/
def Sink.flush (s : Sink) : Sink × Bool :=
  match s.flushes with
  | none => (s, true)
  | some 0 => (s, false)
  | some (n + 1) => ({ s with flushes := some n }, true)

/-- Writes bytes and passes them on, and says whether both were done. -/
def Sink.put (s : Sink) (bytes : Bytes) : Sink × Bool :=
  match s.write bytes with
  | (s, true) => s.flush
  | (s, false) => (s, false)

/-! ## A sink that takes everything -/

/-- A sink has room for everything and passes everything on. -/
structure Sink.TakesAll (s : Sink) : Prop where
  room : s.room = none
  flushes : s.flushes = none

theorem Sink.TakesAll.put {s : Sink} (h : s.TakesAll) (bytes : Bytes) :
    s.put bytes = ({ s with written := s.written ++ bytes }, true) := by
  simp [Sink.put, Sink.write, Sink.flush, h.room, h.flushes]

theorem Sink.TakesAll.with_written {s : Sink} (h : s.TakesAll) (written : Bytes) :
    { s with written }.TakesAll :=
  ⟨h.room, h.flushes⟩

/-! ## Splitting in steps -/

theorem lineFeed_not_mem_rest (bytes : Bytes) : lineFeed ∉ (splitLines bytes).2 := by
  induction bytes with
  | nil => simp [splitLines]
  | cons b rest ih =>
    by_cases h : b = lineFeed
    · simpa [splitLines, h] using ih
    · simp only [splitLines, h, if_false]
      split <;> simp_all [Ne.symm h]

theorem splitLines_of_not_mem {bytes : Bytes} (h : lineFeed ∉ bytes) :
    splitLines bytes = ([], bytes) := by
  induction bytes with
  | nil => rfl
  | cons b rest ih =>
    simp only [List.mem_cons, not_or] at h
    simp [splitLines, Ne.symm h.1, ih h.2]

/-- Bytes that are split in two steps give the same lines as in one. -/
theorem splitLines_append (a b : Bytes) :
    splitLines (a ++ b) =
      ((splitLines a).1 ++ (splitLines ((splitLines a).2 ++ b)).1,
        (splitLines ((splitLines a).2 ++ b)).2) := by
  induction a with
  | nil => simp [splitLines]
  | cons x a ih =>
    by_cases h : x = lineFeed
    · simp [splitLines, h, ih]
    · cases ha : splitLines a with
      | mk lines last =>
        rw [ha] at ih
        cases lines with
        | nil =>
          have hsame : splitLines (a ++ b) = splitLines (last ++ b) := by simpa using ih
          simp [splitLines, h, ha, hsame]
        | cons line lines => simp [splitLines, h, ha, ih]

end DeviceTwin.Console
