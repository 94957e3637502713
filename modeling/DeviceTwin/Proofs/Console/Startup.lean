import DeviceTwin.Proofs.Config.Layout
import DeviceTwin.Proofs.Console.Truncation

/-!
# A configuration that was read starts

A configuration is checked when it is read, so one that comes out of a file can be used, whatever
the file holds.  `Config.Origin` says what there is to read for a configuration to come out: nothing
that is at fault is ever taken for the defaults.  A session with such a configuration can only
finish or lose its input or output (`Session.Orderly`); its device is there to be used all the time,
and no lock is ever poisoned.  A configuration that cannot be used does not start anything
(`read_config_starts`).
-/

namespace DeviceTwin

namespace Config

/-! ## What is read -/

/-- Where a configuration comes from: from a file that is missing or empty, or from one with a text
that gives a configuration that can be used. -/
inductive Origin (files : Files.Tree) (path : Files.Path) : Config → Prop where
  | missing (read : files.read path = .error .notFound) : Origin files path {}
  | empty (read : files.read path = .ok []) : Origin files path {}
  | written {c : Config} {t : Text} (nonempty : t ≠ [])
      (read : files.read path = .ok (Utf8.encode t)) (parse : parse t = .ok c)
      (usable : c.eventBuffer.toNat ≤ maxEventBuffer) : Origin files path c

variable {files : Files.Tree} {path : Files.Path} {content : Bytes} {c : Config}

theorem ofBytes_encode {t : Text} (hne : t ≠ []) (hparse : parse t = .ok c)
    (husable : c.eventBuffer.toNat ≤ maxEventBuffer) : ofBytes (Utf8.encode t) = .ok c := by
  have hvalid := c.validate_eq_ok_iff.2 husable
  simp only [ofBytes, Utf8.encode_ne_nil hne, if_false, Utf8.decode_encode, hparse, hvalid]

/-- Bytes that are read as a configuration. -/
theorem exists_of_ofBytes (hne : content ≠ []) (h : ofBytes content = .ok c) :
    ∃ t, t ≠ [] ∧ content = Utf8.encode t ∧ parse t = .ok c ∧
      c.eventBuffer.toNat ≤ maxEventBuffer := by
  simp only [ofBytes, hne, if_false] at h
  split at h
  · cases h
  next t hdecode =>
  split at h
  · cases h
  next c' hparse =>
  split at h
  · cases h
  next hvalid =>
  obtain rfl := Except.ok.inj h
  have hcontent := Utf8.decode_eq_ok_iff.1 hdecode
  refine ⟨t, ?_, hcontent, hparse, c'.validate_eq_ok_iff.1 hvalid⟩
  rintro rfl
  exact hne hcontent

/-- What is wrong with bytes is never that there is no file. -/
theorem isFileNotFound_of_ofBytes {error : Error} (h : ofBytes content = .error error) :
    error.isFileNotFound = false := by
  have hother : (∀ f, error ≠ .file f) → error.isFileNotFound = false :=
    fun hne => decide_eq_false (hne .notFound)
  apply hother
  rintro f rfl
  simp only [ofBytes] at h
  split at h
  · cases h
  split at h
  · cases h
  split at h
  · cases h
  split at h <;> cases h

theorem readOrDefault_of_missing (h : files.read path = .error .notFound) :
    readOrDefault files path = (.ok {}, [.configMissing]) := by
  simp only [readOrDefault, Config.read, h]
  rfl

theorem readOrDefault_of_not_missing (h : files.read path ≠ .error .notFound) :
    readOrDefault files path = (Config.read files path, []) := by
  have hfound : ∀ {error}, Config.read files path = .error error →
      error.isFileNotFound = false := by
    intro error herror
    simp only [Config.read] at herror
    split at herror
    · next f hf =>
      obtain rfl := Except.error.inj herror
      apply decide_eq_false
      intro hmissing
      exact h (hf.trans (congrArg Except.error (Error.file.inj hmissing)))
    · exact isFileNotFound_of_ofBytes herror
  simp only [readOrDefault]
  cases hread : Config.read files path with
  | error error =>
    apply if_neg
    rw [hfound hread]
    exact Bool.false_ne_true
  | ok c => rfl

theorem readOrDefault_eq_ok_iff :
    (readOrDefault files path).1 = .ok c ↔ Origin files path c := by
  constructor
  · intro h
    by_cases hmissing : files.read path = .error .notFound
    · rw [readOrDefault_of_missing hmissing] at h
      obtain rfl := Except.ok.inj h
      exact Origin.missing hmissing
    rw [readOrDefault_of_not_missing hmissing] at h
    simp only [Config.read] at h
    split at h
    · cases h
    next content hcontent =>
    by_cases hnil : content = []
    · subst hnil
      obtain rfl := Except.ok.inj h
      exact Origin.empty hcontent
    · obtain ⟨t, hne, rfl, hparse, husable⟩ := exists_of_ofBytes hnil h
      exact Origin.written hne hcontent hparse husable
  · intro h
    cases h with
    | missing hread => rw [readOrDefault_of_missing hread]
    | empty hread =>
      have hok : Config.read files path = .ok {} := read_eq_ofBytes hread
      rw [readOrDefault_of_not_missing (by simp [hread]), hok]
    | written hne hread hparse husable =>
      have hok : Config.read files path = .ok c :=
        (read_eq_ofBytes hread).trans (ofBytes_encode hne hparse husable)
      rw [readOrDefault_of_not_missing (by simp [hread]), hok]

theorem Origin.usable_config (h : Origin files path c) :
    c.eventBuffer.toNat ≤ maxEventBuffer := by
  cases h with
  | missing => decide
  | empty => decide
  | written hne hread hparse husable => exact husable

/-- Reading gives nothing that taking the defaults for a missing file would not give as well. -/
theorem readOrDefault_of_read (h : Config.read files path = .ok c) :
    (readOrDefault files path).1 = .ok c := by
  by_cases hmissing : files.read path = .error .notFound
  · simp only [Config.read, hmissing] at h
    cases h
  · rw [readOrDefault_of_not_missing hmissing, h]

end Config

namespace Console

/-- A session finishes, or loses its input or its output. -/
inductive Ending.IsOrderly : Ending → Prop where
  | finished : IsOrderly .finished
  | stream (fault : Files.Fault) : IsOrderly (.failed (.stream fault))

namespace Session

/-! ## What can happen to a session -/

/-- The device of a session can be used, and if the session has ended, nothing has gone wrong but
perhaps its input or output. -/
structure Orderly (s : Session) : Prop where
  ready : s.site.Ready s.device
  ending : ∀ ending, s.ending = some ending → ending.IsOrderly

namespace Orderly

variable {s : Session}

theorem of_eq {s' : Session} (h : s.Orderly) (hsite : s'.site = s.site)
    (hdevice : s'.device = s.device) (hending : s'.ending = s.ending) : s'.Orderly := by
  constructor
  · rw [hsite, hdevice]
    exact h.ready
  · rw [hending]
    exact h.ending

theorem stop (h : s.Orderly) {ending : Ending} (hending : ending.IsOrderly) :
    (s.stop ending).Orderly := by
  constructor
  · exact h.ready
  · rintro _ ⟨⟩
    exact hending

theorem log (h : s.Orderly) (record : Log.Record) : (s.log record).Orderly :=
  h.of_eq rfl rfl rfl

theorem write (h : s.Orderly) (line : Text) : (s.write line).Orderly := by
  have hsink : (s.withSink (s.sink.put (Utf8.encode (line ++ ['\n']))).1).Orderly :=
    h.of_eq rfl rfl rfl
  simp only [Session.write]
  split
  · exact hsink
  · exact hsink.stop (.stream _)

theorem announce (h : s.Orderly) : s.announce.Orderly := by
  obtain ⟨site, trace, hs, -, hremotes, hdevices⟩ := s.announce_eq
  rw [hs]
  constructor
  · exact h.ready.of_eq hremotes hdevices
  · exact h.ending

theorem continueWith (h : s.Orderly) {next : Session → Session} (hnext : (next s).Orderly) :
    (s.continueWith next).Orderly := by
  simp only [Session.continueWith]
  split
  · exact h
  · exact hnext

/-- Every command is answered, so a line is answered or asks to quit. -/
theorem answer (h : s.Orderly) (line : Text) : (s.answer line).Orderly := by
  simp only [Session.answer]
  split
  · exact h
  next command hparse =>
    by_cases hquit : command = .quit
    · subst hquit
      have hquiet := h.stop .finished
      exact hquiet.of_eq rfl rfl rfl
    · obtain ⟨t, hresult, hready⟩ := execute_of_ready h.ready hquit
      simp only [after, hresult]
      apply Orderly.write
      exact ⟨hready, h.ending⟩
  · apply Orderly.write
    exact h.log _

theorem answerBytes (h : s.Orderly) (line : Bytes) : (s.answerBytes line).Orderly := by
  apply h.continueWith
  split
  · exact h.stop (.stream _)
  · exact (h.answer _).announce

theorem foldl_answerBytes (h : s.Orderly) (lines : List Bytes) :
    (lines.foldl Session.answerBytes s).Orderly := by
  induction lines generalizing s with
  | nil => exact h
  | cons line rest ih => exact ih (h.answerBytes line)

theorem feed (h : s.Orderly) (piece : Bytes) : (s.feed piece).Orderly := by
  have hlines := h.foldl_answerBytes (splitLines (s.unfinished ++ piece)).1
  exact hlines.of_eq rfl rfl rfl

theorem foldl_feed (h : s.Orderly) (pieces : List Bytes) :
    (pieces.foldl Session.feed s).Orderly := by
  induction pieces generalizing s with
  | nil => exact h
  | cons piece rest ih => exact ih (h.feed piece)

theorem finish (h : s.Orderly) (e : InputEnd) : (s.finish e).Orderly := by
  apply h.continueWith
  match e with
  | .over =>
    have hlast : (if s.unfinished = [] then s else s.answerBytes s.unfinished).Orderly := by
      split
      · exact h
      · exact h.answerBytes _
    apply hlast.continueWith
    exact (hlast.log .inputEnded).stop .finished
  | .calledOff => exact h.stop .finished
  | .broken fault => exact h.stop (.stream fault)

theorem close (h : s.Orderly) : s.close.ending.IsOrderly := by
  have hending := h.ending
  simp only [Session.close]
  cases hs : s.ending with
  | none => exact .finished
  | some ending => exact hending ending hs

end Orderly

/-- A session begins with a device that can be used, whatever the output is good for. -/
theorem orderly_launch {c : Config} (hc : c.validate = .ok ()) (room flushes : Option Nat)
    (fault : Files.Fault) : (launch c room flushes fault).Orderly := by
  have hbegun := begun_launch hc
  rw [launch_eq]
  constructor
  · exact hbegun.serving.ready
  · intro ending hending
    have hgoing : (launch c none).ending = some ending := hending
    rw [hbegun.serving.going] at hgoing
    cases hgoing

theorem isOrderly_run {c : Config} (hc : c.validate = .ok ()) (pieces : List Bytes)
    (e : InputEnd) (room flushes : Option Nat) (fault : Files.Fault) :
    (run c pieces e room flushes fault).ending.IsOrderly := by
  have hlaunch := orderly_launch hc room flushes fault
  have hend := ((hlaunch.foldl_feed pieces).finish e).close
  simpa only [run, start?, hc] using hend

/-- What is left of a session with a configuration that cannot be used. -/
def notStarted (c : Config) : Outcome :=
  { output := [], trace := [], ending := .failed (.config (.bufferTooLarge ⟨c.eventBuffer⟩)) }

theorem start?_of_too_large {c : Config} (h : Config.maxEventBuffer < c.eventBuffer.toNat)
    (room flushes : Option Nat) (fault : Files.Fault) :
    start? c room flushes fault = .error (.config (.bufferTooLarge ⟨c.eventBuffer⟩)) := by
  have hc : c.validate = .error ⟨c.eventBuffer⟩ := if_pos h
  simp only [start?, hc]

theorem run_of_too_large {c : Config} (h : Config.maxEventBuffer < c.eventBuffer.toNat)
    (pieces : List Bytes) (e : InputEnd) (room flushes : Option Nat) (fault : Files.Fault) :
    run c pieces e room flushes fault = notStarted c := by
  simp only [run, start?_of_too_large h, notStarted]

theorem failed_config_iff (c : Config) (pieces : List Bytes) (e : InputEnd)
    (room flushes : Option Nat) (fault : Files.Fault) :
    (∃ error, (run c pieces e room flushes fault).ending = .failed (.config error)) ↔
      Config.maxEventBuffer < c.eventBuffer.toNat := by
  constructor
  · rintro ⟨error, herror⟩
    by_contra hle
    have horderly := isOrderly_run (c.validate_eq_ok_iff.2 (Nat.le_of_not_lt hle)) pieces e room
      flushes fault
    rw [herror] at horderly
    cases horderly
  · intro h
    rw [run_of_too_large h]
    exact ⟨_, rfl⟩

end Session

/-! ## The main statement -/

/-- A configuration that was read starts.  Let it come out of reading a file, or out of taking the
defaults where there is none.  Then it can be used, and no session with it, whatever its input, how
that ends, how much room there is for the output, how often it is passed on and what is wrong after
that, fails for its configuration or its device or panics.  The defaults are taken for a file that
is missing or empty; everything else is as when the file is read, so a file that is at fault never
gives a configuration.  A session fails for its configuration exactly if the buffer is too large,
and then it has not begun: there is no device, no input is looked at, nothing is written. -/
theorem read_config_starts (files : Files.Tree) (path : Files.Path) :
    (∀ c, Config.read files path = .ok c ∨ (Config.readOrDefault files path).1 = .ok c →
      c.validate = .ok () ∧
        ∀ pieces e room flushes fault,
          (Session.run c pieces e room flushes fault).ending.IsOrderly) ∧
    (Config.readOrDefault files path =
      if files.read path = .error .notFound then (.ok {}, [.configMissing])
      else (Config.read files path, [])) ∧
    (∀ c, (Config.readOrDefault files path).1 = .ok c ↔ Config.Origin files path c) ∧
    ∀ (c : Config) pieces e room flushes fault,
      ((∃ error, (Session.run c pieces e room flushes fault).ending = .failed (.config error)) ↔
        Config.maxEventBuffer < c.eventBuffer.toNat) ∧
      (Config.maxEventBuffer < c.eventBuffer.toNat →
        Session.start? c room flushes fault =
          .error (.config (.bufferTooLarge ⟨c.eventBuffer⟩)) ∧
        Session.run c pieces e room flushes fault = Session.notStarted c) := by
  refine ⟨?_, ?_, ?_, ?_⟩
  · intro c h
    have hdefault : (Config.readOrDefault files path).1 = .ok c :=
      h.elim Config.readOrDefault_of_read id
    have husable := (Config.readOrDefault_eq_ok_iff.1 hdefault).usable_config
    have hc := c.validate_eq_ok_iff.2 husable
    exact ⟨hc, Session.isOrderly_run hc⟩
  · split
    · next h => exact Config.readOrDefault_of_missing h
    · next h => exact Config.readOrDefault_of_not_missing h
  · intro c
    exact Config.readOrDefault_eq_ok_iff
  · intro c pieces e room flushes fault
    constructor
    · exact Session.failed_config_iff c pieces e room flushes fault
    · intro h
      exact ⟨Session.start?_of_too_large h room flushes fault,
        Session.run_of_too_large h pieces e room flushes fault⟩

/-- A file with the largest buffer that can be used. -/
theorem read_config_starts_largest :
    let files : Files.Tree :=
      { entries := [(["c".toList], .file (Utf8.encode "\x7b\"eventBuffer\":65536\x7d".toList))] }
    Config.readOrDefault files "c".toList = (.ok { eventBuffer := 65536 }, []) ∧
      Config.readOrDefault files "d".toList = (.ok {}, [.configMissing]) ∧
      (∀ pieces e room flushes fault,
        (Session.run { eventBuffer := 65536 } pieces e room flushes fault).ending.IsOrderly) ∧
      ∀ pieces e room flushes fault,
        Session.run { eventBuffer := 65537 } pieces e room flushes fault =
          Session.notStarted { eventBuffer := 65537 } := by
  intro files
  have hread : Config.readOrDefault files "c".toList = (.ok { eventBuffer := 65536 }, []) := by
    decide +kernel
  obtain ⟨hstarts, hdefault, -, hlarge⟩ := read_config_starts files "c".toList
  obtain ⟨-, hmissing, -, -⟩ := read_config_starts files "d".toList
  refine ⟨hread, ?_, ?_, ?_⟩
  · rw [hmissing]
    exact if_pos (by decide +kernel)
  · exact (hstarts { eventBuffer := 65536 } (Or.inr (congrArg Prod.fst hread))).2
  · intro pieces e room flushes fault
    exact ((hlarge { eventBuffer := 65537 } pieces e room flushes fault).2 (by decide)).2

end Console

end DeviceTwin
