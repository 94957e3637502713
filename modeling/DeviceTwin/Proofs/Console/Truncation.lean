import DeviceTwin.Proofs.Console.Endings

/-!
# Output that is cut off

A session may have room for a limited number of bytes of output.  As long as they fit, it goes like
the session with room for everything; the first line that does not fit is cut, and ends it.  So all
that a limit does is to cut the output off (`limited_output_is_cut`).

The two sessions are compared line by line.  What a line does apart from writing does not look at
the sink, and it writes one line at most (`exists_answerBytes_eq`).  `Session.Cut` says how the two
sessions stand to each other between the lines: they differ in the room that is left, or the limited
one has already failed, with the bytes that fitted.
-/

namespace DeviceTwin.Console

namespace Session

/-- The session with another sink. -/
def withSink (s : Session) (sink : Sink) : Session := { s with sink }

/-- The session with room for so many bytes in all, those included that it has written. -/
def limited (limit : Nat) (s : Session) : Session :=
  s.withSink { s.sink with room := some (limit - s.sink.written.length) }

/-- Writes a line, if there is one to be written. -/
def writeIfAny (s : Session) : Option Text → Session
  | none => s
  | some line => s.write line

/-! ## What does not look at the sink -/

section Sink

variable (s : Session) (sink : Sink)

theorem announce_withSink : (s.withSink sink).announce = s.announce.withSink sink := by
  simp only [announce, withSink]
  cases s.site.channel? s.events with
  | none => rfl
  | some channel => rfl

/-- Status changes may as well be announced before a line is written. -/
theorem announce_write (line : Text) : (s.write line).announce = s.announce.write line := by
  have hstop : ∀ (s : Session) (ending : Ending), (s.stop ending).announce =
      s.announce.stop ending := by
    intro s ending
    simp only [announce, stop]
    cases s.site.channel? s.events with
    | none => rfl
    | some channel => rfl
  obtain ⟨site, trace, hs, -⟩ := s.announce_eq
  have hsink : s.announce.sink = s.sink := by rw [hs]
  have hwrite : ∀ sink, (s.withSink sink).announce = s.announce.withSink sink :=
    s.announce_withSink
  simp only [write, hsink]
  split
  · exact hwrite _
  · rw [hstop]
    exact congrArg (fun t : Session => t.stop _) (hwrite _)

theorem announce_writeIfAny (out : Option Text) :
    (s.writeIfAny out).announce = s.announce.writeIfAny out := by
  cases out with
  | none => rfl
  | some line => exact s.announce_write line

theorem connectOnLaunch_withSink (c : Config) (remote : RemoteKey) :
    connectOnLaunch c remote (s.withSink sink) = (connectOnLaunch c remote s).withSink sink := by
  simp only [connectOnLaunch, after, withSink]
  split
  · split <;> rfl
  · rfl

theorem startOnLaunch_withSink (c : Config) :
    startOnLaunch c (s.withSink sink) = (startOnLaunch c s).withSink sink := by
  simp only [startOnLaunch, after, withSink]
  split
  · split
    · rfl
    · split <;> rfl
  · rfl

theorem continueWith_withSink {next : Session → Session}
    (h : ∀ s : Session, next (s.withSink sink) = (next s).withSink sink) :
    (s.withSink sink).continueWith next = (s.continueWith next).withSink sink := by
  simp only [continueWith]
  split
  · next hended => rw [if_pos (show s.ending.isSome = true from hended)]
  · next hgoing =>
    rw [if_neg (show ¬ s.ending.isSome = true from hgoing)]
    exact h s

end Sink

/-- What the output is good for makes no difference before the first line. -/
theorem launch_eq (c : Config) (room flushes : Option Nat) (fault : Files.Fault) :
    launch c room flushes fault = (launch c none).withSink { room, flushes, fault } := by
  have hfurnish : furnish c room flushes fault =
      ((furnish c none).1.withSink { room, flushes, fault }, (furnish c none).2) := by
    simp only [furnish]
    split <;> rfl
  simp only [launch, hfurnish]
  rw [continueWith_withSink _ _ fun s => connectOnLaunch_withSink s _ c _,
    continueWith_withSink _ _ fun s => startOnLaunch_withSink s _ c, announce_withSink]

/-! ## What a line does -/

/-- A line changes the session without a look at the sink, and then one line is written at most. -/
theorem exists_answer_eq (s : Session) (line : Text) :
    ∃ (s₁ : Session) (out : Option Text), ∀ sink,
      (s.withSink sink).answer line = (s₁.withSink sink).writeIfAny out := by
  simp only [answer]
  cases Command.parseLine line with
  | error e => exact ⟨s.log (.lineRejected line e.message), some _, fun _ => rfl⟩
  | ok parsed =>
    cases parsed with
    | none => exact ⟨s, none, fun _ => rfl⟩
    | some command =>
      let next : Session := { s with
        site := (execute s.site s.device command).site
        trace := s.trace ++ (execute s.site s.device command).trace }
      simp only [after, withSink]
      cases (execute s.site s.device command).result with
      | error panic => exact ⟨next.stop (.panicked panic), none, fun _ => rfl⟩
      | ok reply =>
        cases reply with
        | quit => exact ⟨next.stop .finished, none, fun _ => rfl⟩
        | text t => exact ⟨next, some t, fun _ => rfl⟩

theorem exists_answerBytes_eq (s : Session) (line : Bytes) :
    ∃ (s₁ : Session) (out : Option Text), ∀ sink,
      (s.withSink sink).answerBytes line = (s₁.withSink sink).writeIfAny out := by
  by_cases hended : s.ending.isSome = true
  · refine ⟨s, none, ?_⟩
    intro sink
    exact if_pos hended
  have hgoing : ∀ sink, ¬ (s.withSink sink).ending.isSome = true := fun _ => hended
  cases hdecode : Utf8.decode line with
  | error f =>
    refine ⟨s.stop (.failed (.stream (.notText f))), none, ?_⟩
    intro sink
    rw [answerBytes, continueWith, if_neg (hgoing sink), hdecode]
    rfl
  | ok text =>
    obtain ⟨s₁, out, h⟩ := s.exists_answer_eq (dropEnd text)
    refine ⟨s₁.announce, out, ?_⟩
    intro sink
    rw [answerBytes, continueWith, if_neg (hgoing sink), hdecode]
    dsimp only
    rw [h, announce_writeIfAny, announce_withSink]

/-! ## Room for everything -/

/-- A session of which all output is taken has gone on to another, and has at most written more. -/
structure Continues (s t : Session) : Prop where
  takesAll : t.sink.TakesAll
  fault : t.sink.fault = s.sink.fault
  written : s.sink.written <+: t.sink.written

theorem Continues.refl {s : Session} (h : s.sink.TakesAll) : Continues s s :=
  ⟨h, rfl, List.prefix_rfl⟩

theorem continues_writeIfAny {s : Session} (h : s.sink.TakesAll) (out : Option Text) :
    Continues s (s.writeIfAny out) := by
  cases out with
  | none => exact Continues.refl h
  | some line =>
    rw [writeIfAny, write_of_takesAll h]
    constructor
    · exact h.with_written _
    · rfl
    · exact List.prefix_append _ _

theorem continues_answerBytes {s : Session} (h : s.sink.TakesAll) (line : Bytes) :
    Continues s (s.answerBytes line) := by
  obtain ⟨s₁, out, hline⟩ := s.exists_answerBytes_eq line
  rw [show s.answerBytes line = (s₁.withSink s.sink).writeIfAny out from hline s.sink]
  have hline := continues_writeIfAny (show (s₁.withSink s.sink).sink.TakesAll from h) out
  exact ⟨hline.takesAll, hline.fault, hline.written⟩

theorem sink_eq_of_withSink (next : Session → Session)
    (h : ∀ s sink, next (s.withSink sink) = (next s).withSink sink) (s : Session) :
    (next s).sink = s.sink := by
  have hnext : next s = (next s).withSink s.sink := h s s.sink
  rw [hnext]
  rfl

/-! ## Two sessions -/

/-- A session with limited room is behind one of which all output is taken: either all that the
latter has written fits, and they differ in nothing else, or it does not, and the former has failed
for the fault of its sink. -/
inductive Cut (limit : Nat) (fault : Files.Fault) : Session → Session → Prop where
  | fits {s : Session} (takesAll : s.sink.TakesAll) (fault_eq : s.sink.fault = fault)
      (le : s.sink.written.length ≤ limit) : Cut limit fault s (s.limited limit)
  | full {s s' : Session} (takesAll : s.sink.TakesAll) (lt : limit < s.sink.written.length)
      (written : s'.sink.written = s.sink.written.take limit)
      (ending : s'.ending = some (.failed (.stream fault))) : Cut limit fault s s'

variable {limit : Nat} {fault : Files.Fault} {s s' : Session}

/-- The limited session that has failed stays as it is, whatever the other one goes on to. -/
theorem Cut.full_of_continues {t : Session} (ht : Continues s t)
    (hlt : limit < s.sink.written.length)
    (hwritten : s'.sink.written = s.sink.written.take limit)
    (hending : s'.ending = some (.failed (.stream fault))) : Cut limit fault t s' := by
  obtain ⟨more, hmore⟩ := ht.written
  apply Cut.full ht.takesAll
  · rw [← hmore, List.length_append]
    omega
  · rw [hwritten, ← hmore, List.take_append_of_le_length (Nat.le_of_lt hlt)]
  · exact hending

/-- The bytes that a line is written as. -/
def lineBytes (line : Text) : Bytes := Utf8.encode (line ++ ['\n'])

theorem write_eq_of_takesAll (h : s.sink.TakesAll) (line : Text) :
    s.write line =
      s.withSink { s.sink with written := s.sink.written ++ lineBytes line } := by
  have hline : Text.unlines [line] = line ++ ['\n'] := List.append_nil _
  rw [write_of_takesAll h, hline]
  rfl

/-- The session after as much of a line has been written as there is room for. -/
def writeCut (limit : Nat) (s : Session) (line : Text) : Session :=
  let room := limit - s.sink.written.length
  s.withSink { s.sink with
    written := s.sink.written ++ (lineBytes line).take room
    room := some (room - (lineBytes line).length) }

theorem write_limited (h : s.sink.TakesAll) (limit : Nat) (line : Text) :
    (s.limited limit).write line =
      if (lineBytes line).length ≤ limit - s.sink.written.length then s.writeCut limit line
      else (s.writeCut limit line).stop (.failed (.stream s.sink.fault)) := by
  have hput : (s.limited limit).sink.put (lineBytes line) =
      ((s.writeCut limit line).sink,
        decide ((lineBytes line).length ≤ limit - s.sink.written.length)) := by
    by_cases hfits : (lineBytes line).length ≤ limit - s.sink.written.length
    · simp [limited, writeCut, withSink, Sink.put, Sink.write, Sink.flush, h.flushes, hfits]
    · simp [limited, writeCut, withSink, Sink.put, Sink.write, hfits]
  rw [lineBytes] at hput
  simp only [write, hput, decide_eq_true_eq]
  rfl

/-- A line that fits leaves the rest of the room. -/
theorem write_limited_of_le (htakes : s.sink.TakesAll) {line : Text}
    (h : s.sink.written.length + (lineBytes line).length ≤ limit) :
    (s.limited limit).write line = (s.write line).limited limit := by
  have hbytes : (lineBytes line).length ≤ limit - s.sink.written.length := by omega
  have hrest : limit - s.sink.written.length - (lineBytes line).length =
      limit - (s.sink.written ++ lineBytes line).length := by
    rw [List.length_append]
    omega
  rw [write_limited htakes, if_pos hbytes, write_eq_of_takesAll htakes]
  simp only [writeCut, List.take_of_length_le hbytes, hrest]
  rfl

/-- A line that does not fit is cut where the room ends. -/
theorem write_limited_of_lt (htakes : s.sink.TakesAll) (hle : s.sink.written.length ≤ limit)
    {line : Text} (h : limit < s.sink.written.length + (lineBytes line).length) :
    ((s.limited limit).write line).sink.written = (s.write line).sink.written.take limit ∧
      ((s.limited limit).write line).ending = some (.failed (.stream s.sink.fault)) := by
  have hbytes : ¬ (lineBytes line).length ≤ limit - s.sink.written.length := by omega
  rw [write_limited htakes, if_neg hbytes, write_eq_of_takesAll htakes]
  constructor
  · have htake : (s.sink.written ++ lineBytes line).take limit =
        s.sink.written ++ (lineBytes line).take (limit - s.sink.written.length) := by
      rw [List.take_append, List.take_of_length_le hle]
    exact htake.symm
  · rfl

theorem cut_writeIfAny (htakes : s.sink.TakesAll) (hfault : s.sink.fault = fault)
    (hle : s.sink.written.length ≤ limit) (out : Option Text) :
    Cut limit fault (s.writeIfAny out) ((s.limited limit).writeIfAny out) := by
  have hgrown := continues_writeIfAny htakes out
  cases out with
  | none => exact Cut.fits htakes hfault hle
  | some line =>
    have hlength : (s.write line).sink.written.length =
        s.sink.written.length + (lineBytes line).length := by
      rw [write_eq_of_takesAll htakes]
      exact List.length_append
    by_cases h : s.sink.written.length + (lineBytes line).length ≤ limit
    · rw [writeIfAny, writeIfAny, write_limited_of_le htakes h]
      apply Cut.fits hgrown.takesAll (hgrown.fault.trans hfault)
      rwa [writeIfAny, hlength]
    · obtain ⟨hwritten, hending⟩ := write_limited_of_lt htakes hle (Nat.lt_of_not_le h)
      apply Cut.full hgrown.takesAll
      · rw [writeIfAny, hlength]
        exact Nat.lt_of_not_le h
      · exact hwritten
      · rw [← hfault]
        exact hending

/-! ## What keeps the two together -/

/-- Each line keeps the sessions together. -/
theorem Cut.answerBytes (h : Cut limit fault s s') (line : Bytes) :
    Cut limit fault (s.answerBytes line) (s'.answerBytes line) := by
  cases h with
  | fits htakes hfault hle =>
    obtain ⟨s₁, out, hline⟩ := s.exists_answerBytes_eq line
    rw [show s.answerBytes line = (s₁.withSink s.sink).writeIfAny out from hline s.sink,
      show (s.limited limit).answerBytes line =
        ((s₁.withSink s.sink).limited limit).writeIfAny out from hline _]
    apply cut_writeIfAny
    · exact htakes
    · exact hfault
    · exact hle
  | full htakes hlt hwritten hending =>
    have hstays : s'.answerBytes line = s' := if_pos (by rw [hending]; rfl)
    rw [hstays]
    exact full_of_continues (continues_answerBytes htakes line) hlt hwritten hending

theorem Cut.foldl_answerBytes (h : Cut limit fault s s') (lines : List Bytes) :
    Cut limit fault (lines.foldl Session.answerBytes s) (lines.foldl Session.answerBytes s') := by
  induction lines generalizing s s' with
  | nil => exact h
  | cons line rest ih => exact ih (h.answerBytes line)

/-- So does whatever does not look at the sink. -/
theorem Cut.continueWith (h : Cut limit fault s s') {next : Session → Session}
    (hnext : ∀ s sink, next (s.withSink sink) = (next s).withSink sink) :
    Cut limit fault (s.continueWith next) (s'.continueWith next) := by
  have hsink : (s.continueWith next).sink = s.sink := by
    apply sink_eq_of_withSink fun s => s.continueWith next
    intro s sink
    exact continueWith_withSink s sink fun s => hnext s sink
  cases h with
  | fits htakes hfault hle =>
    have hlimited : (s.limited limit).continueWith next =
        (s.continueWith next).limited limit := by
      rw [limited, limited, continueWith_withSink s _ fun s => hnext s _, hsink]
    rw [hlimited]
    apply Cut.fits
    · rwa [hsink]
    · rwa [hsink]
    · rwa [hsink]
  | full htakes hlt hwritten hending =>
    have hstays : s'.continueWith next = s' := if_pos (by rw [hending]; rfl)
    rw [hstays]
    apply Cut.full
    · rwa [hsink]
    · rwa [hsink]
    · rwa [hsink]
    · exact hending

theorem Cut.setUnfinished (h : Cut limit fault s s') (bytes : Bytes) :
    Cut limit fault { s with unfinished := bytes } { s' with unfinished := bytes } := by
  cases h with
  | fits htakes hfault hle => exact Cut.fits htakes hfault hle
  | full htakes hlt hwritten hending => exact Cut.full htakes hlt hwritten hending

theorem Cut.feed (h : Cut limit fault s s') (hunfinished : s.unfinished = s'.unfinished)
    (piece : Bytes) : Cut limit fault (s.feed piece) (s'.feed piece) := by
  rw [feed_eq, feed_eq, hunfinished]
  apply Cut.setUnfinished
  exact h.foldl_answerBytes _

/-! ## The end -/

/-- At the end of the input the line that is not complete is answered, and that is the end. -/
theorem finish_over_eq (s : Session) :
    s.finish .over = (if s.unfinished = [] then s else s.answerBytes s.unfinished).continueWith
      fun s => (s.log .inputEnded).stop .finished := by
  by_cases hended : s.ending.isSome = true
  · have hstays : s.answerBytes s.unfinished = s := if_pos hended
    rw [finish_of_ended hended, hstays, ite_self, continueWith, if_pos hended]
  · exact if_neg hended

theorem Cut.finish (h : Cut limit fault s s') (hunfinished : s.unfinished = s'.unfinished)
    (e : InputEnd) : Cut limit fault (s.finish e) (s'.finish e) := by
  match e with
  | .over =>
    rw [finish_over_eq, finish_over_eq, hunfinished]
    apply Cut.continueWith
    · split
      · exact h
      · exact h.answerBytes _
    · exact fun _ _ => rfl
  | .calledOff => exact h.continueWith fun _ _ => rfl
  | .broken fault => exact h.continueWith fun _ _ => rfl

/-- What two sessions leave behind when they are closed. -/
theorem Cut.close (h : Cut limit fault s s') :
    s'.close.output = s.close.output.take limit ∧
      (s.close.output.length ≤ limit → s'.close = s.close) ∧
      (limit < s.close.output.length → s'.close.ending = .failed (.stream fault)) := by
  cases h with
  | fits htakes hfault hle =>
    refine ⟨(List.take_of_length_le hle).symm, fun _ => rfl, ?_⟩
    intro hlt
    exact absurd hle (Nat.not_le_of_lt hlt)
  | full htakes hlt hwritten hending =>
    refine ⟨hwritten, ?_, ?_⟩
    · intro hle
      exact absurd hle (Nat.not_le_of_lt hlt)
    · intro _
      exact (congrArg (·.getD .finished) hending)

/-! ## The whole session -/

theorem unfinished_launch {c : Config} (hc : c.validate = .ok ()) (room : Option Nat) :
    (launch c room).unfinished = [] := by
  rw [launch_eq]
  exact (begun_launch hc).unfinished

theorem run_eq_close {c : Config} (hc : c.validate = .ok ()) (pieces : List Bytes) (e : InputEnd)
    (room : Option Nat) :
    Session.run c pieces e room = (((launch c room).feed pieces.flatten).finish e).close := by
  have hnone : lineFeed ∉ (launch c room).unfinished := by simp [unfinished_launch hc]
  simp only [Session.run, start?, hc, foldl_feed hnone]

theorem cut_launch {c : Config} (hc : c.validate = .ok ()) (limit : Nat) :
    Cut limit .writeZero (launch c none) (launch c (some limit)) := by
  have hbegun := begun_launch hc
  have hsink : (launch c none).sink = {} := by
    rw [launch_eq]
    rfl
  have hlimited : launch c (some limit) = (launch c none).limited limit := by
    rw [launch_eq, limited, hsink]
    rfl
  rw [hlimited]
  apply Cut.fits hbegun.serving.sink
  · rw [hsink]
  · rw [hbegun.written]
    exact Nat.zero_le limit

/-- At its end, a session with limited room is behind the one with room for everything. -/
theorem cut_finish {c : Config} (hc : c.validate = .ok ()) (input : Bytes) (e : InputEnd)
    (limit : Nat) : Cut limit .writeZero (((launch c none).feed input).finish e)
      (((launch c (some limit)).feed input).finish e) := by
  have hunfinished : (launch c none).unfinished = (launch c (some limit)).unfinished := by
    rw [unfinished_launch hc, unfinished_launch hc]
  have hfed := (cut_launch hc limit).feed hunfinished input
  exact hfed.finish (by rw [feed_eq, feed_eq, hunfinished]) e

end Session

open Session

/-! ## The main statement -/

/-- A limit on the output only cuts the output off.  Whatever the input is and however it ends, a
session with room for so many bytes writes those first bytes of what it would write without a
limit.  If that is all of it, the sessions do not differ in anything.  If it is not, then the
limited one fails since no more was taken, also where the other one fails for another reason. -/
theorem limited_output_is_cut (c : Config) (pieces : List Bytes) (e : InputEnd) (limit : Nat) :
    (Session.run c pieces e (some limit)).output =
        (Session.run c pieces e none).output.take limit ∧
      ((Session.run c pieces e none).output.length ≤ limit →
        Session.run c pieces e (some limit) = Session.run c pieces e none) ∧
      (limit < (Session.run c pieces e none).output.length →
        (Session.run c pieces e (some limit)).ending = .failed (.stream .writeZero)) := by
  cases hc : c.validate with
  | error tooLarge =>
    have hrun : ∀ room, Session.run c pieces e room =
        { output := [], trace := [], ending := .failed (.config (.bufferTooLarge tooLarge)) } := by
      intro room
      simp only [Session.run, start?, hc]
    rw [hrun, hrun]
    refine ⟨List.take_nil.symm, fun _ => rfl, ?_⟩
    intro hlt
    exact absurd hlt (Nat.not_lt_zero limit)
  | ok _ =>
    rw [run_eq_close hc, run_eq_close hc]
    exact (cut_finish hc pieces.flatten e limit).close

/-- A reply is cut inside a character.  The line behind it is no text, and is not read any more. -/
theorem limited_output_is_cut_inside_character :
    (Session.run {} [[195, 169, 10, 255, 10]] .over (some 25)).output =
        Utf8.encode "error: Unknown command \"".toList ++ [195] ∧
      (Session.run {} [[195, 169, 10, 255, 10]] .over (some 25)).ending =
        .failed (.stream .writeZero) ∧
      (Session.run {} [[195, 169, 10, 255, 10]] .over none).Shows
        (.failed (.stream (.notText ⟨0, some 1⟩)))
        ["error: Unknown command \"é\", try \"help\"".toList] := by
  obtain ⟨houtput, -, hending⟩ :=
    limited_output_is_cut {} [[195, 169, 10, 255, 10]] .over 25
  have hfree : (Session.run {} [[195, 169, 10, 255, 10]] .over none).Shows
      (.failed (.stream (.notText ⟨0, some 1⟩)))
      ["error: Unknown command \"é\", try \"help\"".toList] := by
    constructor
    · rfl
    · decide +kernel
  rw [hfree.output] at houtput hending
  exact ⟨houtput, hending (by decide), hfree⟩

end DeviceTwin.Console
