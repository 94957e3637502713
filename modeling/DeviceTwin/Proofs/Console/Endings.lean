import DeviceTwin.Proofs.Console.Transcript

/-!
# How the input ends

A session may come to the end of its input, be called off, or be cut off from its input.  None of
that changes what has been answered: the complete lines are answered in the same way, and all that
is left to the end is the line that is not complete (`answered_whatever_end`).  The input may be
any bytes here.  A line that is no text breaks the session off, unless a line before it asks to
quit.

The lines of the input are read by `readLines`.  Answering the bytes of lines is answering the
texts that it reads and then breaking off, if it found a line that is no text
(`foldl_answerBytes_eq`); the rest is a case distinction on how the session stands at the end of
the last complete line.
-/

namespace DeviceTwin.Console

/-- The texts of lines that are given by their bytes, up to the first line that is no text, and
what is wrong with that line. -/
def readLines : List Bytes → List Text × Option Utf8.Fault
  | [] => ([], none)
  | line :: rest =>
    match Utf8.decode line with
    | .error f => ([], some f)
    | .ok t => (dropEnd t :: (readLines rest).1, (readLines rest).2)

/-- A session ended so and wrote these lines. -/
structure Outcome.Shows (o : Outcome) (ending : Ending) (out : List Text) : Prop where
  ending : o.ending = ending
  output : o.output = Utf8.encode (Text.unlines out)

namespace Session

/-! ## Lines that may be no texts -/

/-- Breaks a session off if there was a line that is no text. -/
def breakOff (s : Session) : Option Utf8.Fault → Session
  | none => s
  | some f => s.continueWith (·.stop (.failed (.stream (.notText f))))

theorem isSome_ending_breakOff (s : Session) (f : Utf8.Fault) :
    (s.breakOff (some f)).ending.isSome = true := by
  rw [breakOff, continueWith]
  split
  · assumption
  · rfl

theorem breakOff_of_ended {s : Session} (h : s.ending.isSome = true) (fault : Option Utf8.Fault) :
    s.breakOff fault = s := by
  cases fault with
  | none => rfl
  | some f => rw [breakOff, continueWith, if_pos h]

theorem foldl_answerBytes_eq (s : Session) (lines : List Bytes) :
    lines.foldl answerBytes s = ((readLines lines).1.foldl answerLine s).breakOff
      (readLines lines).2 := by
  induction lines generalizing s with
  | nil => rfl
  | cons line rest ih =>
    cases hdecode : Utf8.decode line with
    | error f =>
      have hline : s.answerBytes line = s.breakOff (some f) := by
        simp only [answerBytes, hdecode, breakOff]
      rw [List.foldl_cons, hline, foldl_answerBytes_of_ended (isSome_ending_breakOff s f)]
      simp only [readLines, hdecode, List.foldl_nil]
    | ok t =>
      have hline : s.answerBytes line = s.answerLine (dropEnd t) := by
        simp only [answerBytes, answerLine, hdecode]
      rw [List.foldl_cons, hline, ih]
      simp only [readLines, hdecode, List.foldl_cons]

/-! ## Lines that do not ask to quit -/

/-- What lines do to a session that goes on, if none of them asks to quit. -/
structure Served (s : Session) (lines : List Text) (s' : Session) (out : List Text) : Prop where
  serving : s'.Serving
  device : s'.device = s.device
  written : s'.sink.written = s.sink.written ++ Utf8.encode (Text.unlines out)
  replies : ∀ rest, replies s.device s.site (lines ++ rest) =
    (replies s'.device s'.site rest).map (out ++ ·)

theorem exists_served {s : Session} (h : s.Serving) {lines : List Text}
    (hquit : ∀ line ∈ lines, ¬ IsQuit line) :
    ∃ out, Served s lines (lines.foldl answerLine s) out := by
  induction lines generalizing s with
  | nil =>
    refine ⟨[], h, rfl, by simp [Text.unlines, Utf8.encode], ?_⟩
    intro rest
    simp only [List.foldl_nil, List.nil_append]
    cases Console.replies s.device s.site rest <;> rfl
  | cons line rest ih =>
    obtain ⟨first, hfirst⟩ := exists_answered h (hquit line (by simp))
    obtain ⟨more, hmore⟩ := ih hfirst.serving fun x hx => hquit x (by simp [hx])
    refine ⟨first ++ more, hmore.serving, hmore.device.trans hfirst.device, ?_, ?_⟩
    · have hunlines : Text.unlines (first ++ more) = Text.unlines first ++ Text.unlines more :=
        List.flatMap_append
      rw [List.foldl_cons, hmore.written, hfirst.written, hunlines, Utf8.encode_append,
        List.append_assoc]
    · intro others
      rw [List.cons_append, hfirst.replies, hmore.replies, List.foldl_cons]
      generalize Console.replies _ _ others = answered
      cases answered with
      | error panic => rfl
      | ok out => simp [Except.map]

theorem Served.replies_eq {s s' : Session} {lines out : List Text} (h : Served s lines s' out) :
    Console.replies s.device s.site lines = .ok out := by
  have hnil := h.replies []
  simpa [Console.replies, Except.map] using hnil

/-! ## The end -/

theorem finish_of_ended {s : Session} (h : s.ending.isSome = true) (e : InputEnd) :
    s.finish e = s := by
  rw [finish, continueWith, if_pos h]

/-- A line that is not complete holds no line feed, whatever its bytes are. -/
theorem newline_not_mem_of_decode {bytes : Bytes} {t : Text} (hbytes : lineFeed ∉ bytes)
    (h : Utf8.decode bytes = .ok t) : '\n' ∉ t := by
  rw [Utf8.decode_eq_ok_iff.1 h, lineFeed_mem_encode_iff] at hbytes
  exact hbytes

/-- A line is answered with one line at most. -/
theorem length_replies_singleton {k : DeviceKey} {s : Site} {line : Text} {out : List Text}
    (h : Console.replies k s [line] = .ok out) : out.length ≤ 1 := by
  simp only [Console.replies] at h
  split at h
  · rw [← Except.ok.inj h]
    exact Nat.zero_le 1
  · rw [← Except.ok.inj h]
    exact Nat.le_refl 1
  · split at h
    · rw [← Except.ok.inj h]
      exact Nat.le_refl 1
    · rw [← Except.ok.inj h]
      exact Nat.zero_le 1
    · cases h

section Shows

variable {s : Session} {out : List Text} (bytes : Bytes)

/-- A session that has ended is not changed by how the input ends. -/
theorem shows_of_ended {ending : Ending} (hending : s.ending = some ending)
    (hwritten : s.sink.written = Utf8.encode (Text.unlines out)) (e : InputEnd) :
    ((({ s with unfinished := bytes } : Session).finish e).close).Shows ending out := by
  rw [finish_of_ended (by simp [hending])]
  constructor
  · simp [close, hending]
  · exact hwritten

theorem shows_of_fault (hgoing : s.ending = none)
    (hwritten : s.sink.written = Utf8.encode (Text.unlines out)) (f : Utf8.Fault)
    (e : InputEnd) :
    ((({ s.breakOff (some f) with unfinished := bytes } : Session).finish e).close).Shows
      (.failed (.stream (.notText f))) out := by
  have hbreak : s.breakOff (some f) = s.stop (.failed (.stream (.notText f))) := by
    simp [breakOff, continueWith, hgoing]
  rw [hbreak]
  apply shows_of_ended
  · rfl
  · exact hwritten

theorem shows_calledOff (hgoing : s.ending = none)
    (hwritten : s.sink.written = Utf8.encode (Text.unlines out)) :
    ((({ s with unfinished := bytes } : Session).finish .calledOff).close).Shows .finished
      out := by
  constructor <;> simp [finish, continueWith, hgoing, stop, close, hwritten]

theorem shows_broken (hgoing : s.ending = none)
    (hwritten : s.sink.written = Utf8.encode (Text.unlines out)) (fault : Files.Fault) :
    ((({ s with unfinished := bytes } : Session).finish (.broken fault)).close).Shows
      (.failed (.stream fault)) out := by
  constructor <;> simp [finish, continueWith, hgoing, stop, close, hwritten]

variable {bytes}

/-- A last line that is no text breaks the session off at the end of the input. -/
theorem shows_over_of_fault (hgoing : s.ending = none)
    (hwritten : s.sink.written = Utf8.encode (Text.unlines out)) {f : Utf8.Fault}
    (hlast : Utf8.decode bytes = .error f) :
    ((({ s with unfinished := bytes } : Session).finish .over).close).Shows
      (.failed (.stream (.notText f))) out := by
  have hne : bytes ≠ [] := by
    rintro rfl
    cases hlast
  have hfinish : ({ s with unfinished := bytes } : Session).finish .over =
      ({ s with unfinished := bytes } : Session).stop (.failed (.stream (.notText f))) := by
    simp [finish, continueWith, hgoing, hne, answerBytes, hlast, stop]
  rw [hfinish]
  exact ⟨rfl, hwritten⟩

/-- A last line that is a text is answered at the end of the input, and that ends the session. -/
theorem shows_over_of_text (h : s.Serving)
    (hwritten : s.sink.written = Utf8.encode (Text.unlines out)) (hbytes : lineFeed ∉ bytes)
    {t : Text} (hlast : Utf8.decode bytes = .ok t) :
    ∃ reply, reply.length ≤ 1 ∧ Console.replies s.device s.site [t] = .ok reply ∧
      ((({ s with unfinished := bytes } : Session).finish .over).close).Shows .finished
        (out ++ reply) := by
  have hnewline := newline_not_mem_of_decode hbytes hlast
  obtain rfl := Utf8.decode_eq_ok_iff.1 hlast
  obtain ⟨hsink, hending⟩ := finish_over s hnewline
  have hunlines : ∀ reply, Text.unlines (out ++ reply) = Text.unlines out ++ Text.unlines reply :=
    fun reply => List.flatMap_append
  by_cases hnil : t = []
  · subst hnil
    refine ⟨[], Nat.zero_le 1, rfl, ?_, ?_⟩
    · rw [close, hending, if_pos rfl, List.foldl_nil, h.going]
      rfl
    · rw [close, hsink, if_pos rfl, List.foldl_nil, hwritten, List.append_nil]
  · rw [if_neg hnil] at hsink hending
    obtain ⟨⟨reply, hreply, hmore⟩, hcases⟩ := foldl_answerLine h [t]
    refine ⟨reply, length_replies_singleton hreply, hreply, ?_, ?_⟩
    · rw [close, hending]
      rcases hcases with ⟨-, hnone⟩ | ⟨-, hfinished⟩
      · rw [hnone]
        rfl
      · rw [hfinished]
        rfl
    · rw [close, hsink, hmore, hwritten, hunlines, Utf8.encode_append]

end Shows

end Session

open Session

/-! ## The main statement -/

/-- A session goes through the complete lines of its input, and then it ends. -/
theorem run_eq_finish {c : Config} (hc : c.validate = .ok ()) (pieces : List Bytes)
    (e : InputEnd) :
    Session.run c pieces e none =
      (({ ((readLines (splitLines pieces.flatten).1).1.foldl answerLine (launch c none)).breakOff
            (readLines (splitLines pieces.flatten).1).2 with
          unfinished := (splitLines pieces.flatten).2 } : Session).finish e).close := by
  have hbegun := begun_launch hc
  have hnone : lineFeed ∉ (launch c none).unfinished := by simp [hbegun.unfinished]
  simp only [Session.run, start?, hc, foldl_feed hnone, feed_eq, hbegun.unfinished,
    List.nil_append, foldl_answerBytes_eq]

/-- How the input ends never changes what was answered.  Let the complete lines of the input be
read up to the first that is no text.  If one of those read asks to quit, every session finishes
and has written the replies up to that line.  Else, if a line is no text, every session fails for
that and has written the replies to the lines before it.  Else all complete lines are answered, and
a session that is called off finishes with those replies, and one that is cut off from its input
fails for that with the same replies; at the end of the input the line that is not complete is
answered as well, if it is a text, and the session fails without a further reply if it is none. -/
theorem answered_whatever_end (c : Config) (hc : c.validate = .ok ()) (pieces : List Bytes)
    (lines : List Bytes) (last : Bytes) (hlines : splitLines pieces.flatten = (lines, last)) :
    ∃ out, replies 0 (outset c) (readLines lines).1 = .ok out ∧
      ((∃ line ∈ (readLines lines).1, IsQuit line) →
        ∀ e, (Session.run c pieces e none).Shows .finished out) ∧
      ((∀ line ∈ (readLines lines).1, ¬ IsQuit line) →
        (∀ f, (readLines lines).2 = some f →
          ∀ e, (Session.run c pieces e none).Shows (.failed (.stream (.notText f))) out) ∧
        ((readLines lines).2 = none →
          (Session.run c pieces .calledOff none).Shows .finished out ∧
          (∀ fault,
            (Session.run c pieces (.broken fault) none).Shows (.failed (.stream fault)) out) ∧
          (∀ f, Utf8.decode last = .error f →
            (Session.run c pieces .over none).Shows (.failed (.stream (.notText f))) out) ∧
          ∀ t, Utf8.decode last = .ok t → ∃ reply, reply.length ≤ 1 ∧
            replies 0 (outset c) ((readLines lines).1 ++ [t]) = .ok (out ++ reply) ∧
            (Session.run c pieces .over none).Shows .finished (out ++ reply))) := by
  have hbegun := begun_launch hc
  have hrun := run_eq_finish hc pieces
  rw [hlines] at hrun
  dsimp only at hrun
  have hreplies : ∀ texts, replies (launch c none).device (launch c none).site texts =
      replies 0 (outset c) texts := by
    intro texts
    rw [hbegun.device, replies_congr hbegun.site]
  obtain ⟨⟨out, hout, hwritten⟩, hcases⟩ := foldl_answerLine hbegun.serving (readLines lines).1
  rw [hbegun.written, List.nil_append] at hwritten
  rw [hreplies] at hout
  refine ⟨out, hout, ?_, ?_⟩
  · rintro ⟨line, hline, hquit⟩ e
    have hending : ((readLines lines).1.foldl answerLine (launch c none)).ending =
        some .finished := by
      rcases hcases with ⟨hnot, -⟩ | ⟨-, hending⟩
      · exact absurd hquit (hnot line hline)
      · exact hending
    rw [hrun, breakOff_of_ended (by simp [hending])]
    exact shows_of_ended last hending hwritten e
  intro hnot
  obtain ⟨out', hserved⟩ := exists_served hbegun.serving hnot
  obtain rfl : out' = out := by
    have heq := hserved.replies_eq
    rw [hreplies, hout] at heq
    exact (Except.ok.inj heq).symm
  constructor
  · intro f hf e
    rw [hrun, hf]
    exact shows_of_fault last hserved.serving.going hwritten f e
  intro hf
  rw [hf, breakOff] at hrun
  have hlast : lineFeed ∉ last := by
    have hrest := lineFeed_not_mem_rest pieces.flatten
    rwa [hlines] at hrest
  refine ⟨?_, ?_, ?_, ?_⟩
  · rw [hrun]
    exact shows_calledOff last hserved.serving.going hwritten
  · intro fault
    rw [hrun]
    exact shows_broken last hserved.serving.going hwritten fault
  · intro f hdecode
    rw [hrun]
    exact shows_over_of_fault hserved.serving.going hwritten hdecode
  · intro t hdecode
    obtain ⟨reply, hlength, hreply, hshows⟩ :=
      shows_over_of_text hserved.serving hwritten hlast hdecode
    refine ⟨reply, hlength, ?_, ?_⟩
    · rw [← hreplies, hserved.replies, hreply]
      rfl
    · rw [hrun]
      exact hshows

/-- A session whose last line is not complete, and holds bytes that are a command. -/
theorem answered_whatever_end_unfinished :
    (Session.run {} [[63, 10], [63]] .calledOff none).Shows .finished [helpText] ∧
      (Session.run {} [[63, 10], [63]] (.broken .connectionReset) none).Shows
        (.failed (.stream .connectionReset)) [helpText] ∧
      (Session.run {} [[63, 10], [63]] .over none).Shows .finished [helpText, helpText] := by
  obtain ⟨out, hout, -, hopen⟩ := answered_whatever_end {} rfl [[63, 10], [63]] [[63, 10]] [63] rfl
  have hreplies : replies 0 (outset {}) (readLines [[63, 10]]).1 = .ok [helpText] := rfl
  obtain rfl := Except.ok.inj (hreplies.symm.trans hout)
  have hquit : ∀ line ∈ (readLines [[63, 10]]).1, ¬ IsQuit line := by
    intro line hline
    obtain rfl : line = ['?'] := List.mem_singleton.1 hline
    exact fun h => nomatch h
  obtain ⟨hcalledOff, hbroken, -, hover⟩ := (hopen hquit).2 rfl
  obtain ⟨reply, -, hboth, hshows⟩ := hover ['?'] rfl
  have hreplies : replies 0 (outset {}) ((readLines [[63, 10]]).1 ++ [['?']]) =
      .ok [helpText, helpText] := rfl
  rw [← Except.ok.inj (hreplies.symm.trans hboth)] at hshows
  exact ⟨hcalledOff, hbroken .connectionReset, hshows⟩

end DeviceTwin.Console
