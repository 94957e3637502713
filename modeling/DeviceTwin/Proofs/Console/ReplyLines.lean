import DeviceTwin.Proofs.Console.Answers
import DeviceTwin.Proofs.Console.Truncation

/-!
# How many lines a session writes

What is typed breaks no lines of the output.  Help has eight lines, and all other replies have one,
unless the name of the remote breaks lines.  So the output has as many lines as there are lines that
are answered, and seven more for each that asks for help (`input_breaks_no_lines`).

`linesRead` says which lines a session reads, however its input ends, and `output_eq` that nothing
else has an effect on the output.
-/

namespace DeviceTwin

namespace Console

/-! ## The lines of the output -/

/-- The lines of a text that is made of lines, if some of those hold line feeds. -/
theorem pieces_unlines_eq_flatMap (ls : List Text) :
    Text.pieces '\n' (Text.unlines ls) = ls.flatMap (Text.pieces '\n') ++ [[]] := by
  induction ls with
  | nil => rfl
  | cons line ls ih =>
    have hunlines : Text.unlines (line :: ls) = line ++ '\n' :: Text.unlines ls := by
      simp [Text.unlines]
    rw [hunlines, Text.pieces_append_sep_append, ih, List.flatMap_cons, List.append_assoc]

theorem splitLines_unlines (ls : List Text) :
    ∃ lines, splitLines (Utf8.encode (Text.unlines ls)) = (lines, []) ∧
      lines.length = (ls.flatMap (Text.pieces '\n')).length := by
  refine ⟨_, splitLines_encode (pieces_unlines_eq_flatMap ls), ?_⟩
  rw [List.length_map]

theorem length_pieces_helpText : (Text.pieces '\n' helpText).length = 8 := by
  decide +kernel

theorem Answer.length_pieces {remote line reply : Text} (h : Answer remote line reply)
    (hremote : '\n' ∉ remote) :
    (Text.pieces '\n' reply).length = if IsHelp line then 8 else 1 := by
  by_cases hhelp : IsHelp line
  · rw [if_pos hhelp, h.help hhelp, length_pieces_helpText]
  · have hone : '\n' ∉ reply := fun hmem => hremote (h.broken hhelp hmem).1
    rw [if_neg hhelp, Text.pieces_of_not_mem hone]
    rfl

/-- One line answers each line, and seven lines more answer one that asks for help. -/
theorem length_flatMap_pieces {remote : Text} {asked out : List Text}
    (h : List.Forall₂ (Answer remote) asked out) (hremote : '\n' ∉ remote) :
    (out.flatMap (Text.pieces '\n')).length =
      asked.length + 7 * asked.countP fun line => IsHelp line := by
  induction h with
  | nil => rfl
  | @cons line reply asked out hanswer _ ih =>
    rw [List.flatMap_cons, List.length_append, hanswer.length_pieces hremote, ih,
      List.length_cons, List.countP_cons]
    by_cases hhelp : IsHelp line
    · simp only [hhelp, if_true, decide_true]
      omega
    · simp only [hhelp, if_false, decide_false, Bool.false_eq_true]
      omega

/-! ## The lines of the input -/

/-- The lines that a session comes across: the complete ones, and what is left of the input when it
is over. -/
def linesMet (bytes : Bytes) (e : InputEnd) : List Bytes :=
  (splitLines bytes).1 ++
    if e = .over ∧ (splitLines bytes).2 ≠ [] then [(splitLines bytes).2] else []

/-- The texts of these lines, up to the first that is no text. -/
def linesRead (bytes : Bytes) (e : InputEnd) : List Text := (readLines (linesMet bytes e)).1

theorem readLines_map_encode (lines : List Text) :
    readLines (lines.map Utf8.encode) = (lines.map dropEnd, none) := by
  induction lines with
  | nil => rfl
  | cons line rest ih => simp only [List.map_cons, readLines, Utf8.decode_encode, ih]

/-- If the input is a text, its lines are read. -/
theorem linesRead_encode (t : Text) : linesRead (Utf8.encode t) .over = t.lines := by
  rcases List.eq_nil_or_concat (Text.pieces '\n' t) with hnil | ⟨ended, last, ht⟩
  · exact absurd hnil (Text.pieces_ne_nil '\n' t)
  rw [List.concat_eq_append] at ht
  have hlast : '\n' ∉ last := Text.sep_not_mem_of_mem_pieces (by rw [ht]; simp)
  have hmet : linesMet (Utf8.encode t) .over =
      (ended.map (· ++ ['\n']) ++ if last = [] then [] else [last]).map Utf8.encode := by
    rw [linesMet, splitLines_encode ht, List.map_append, List.map_map]
    by_cases hnil : last = []
    · simp [hnil, Utf8.encode]
    · simp [hnil, Utf8.encode_ne_nil hnil]
  have hchomp : ∀ line : Text, dropEnd (line ++ ['\n']) = Text.chomp line := dropEnd_append_newline
  rw [linesRead, hmet, readLines_map_encode, Text.lines, ht, Text.linesOfPieces_append,
    List.map_append, List.map_map]
  by_cases hnil : last = []
  · simp [hnil, hchomp]
  · simp [hnil, hchomp, dropEnd_of_not_mem hlast]

/-- A complete line ends at its first line feed. -/
theorem exists_body_of_mem_splitLines {bytes line : Bytes} (h : line ∈ (splitLines bytes).1) :
    ∃ body, line = body ++ [lineFeed] ∧ lineFeed ∉ body := by
  induction bytes generalizing line with
  | nil => cases h
  | cons b rest ih =>
    by_cases hb : b = lineFeed
    · simp only [splitLines, hb, if_true] at h
      rcases List.mem_cons.1 h with rfl | h
      · exact ⟨[], rfl, List.not_mem_nil⟩
      · exact ih h
    · simp only [splitLines, hb, if_false] at h
      split at h
      · cases h
      · next first others last hsplit =>
        rw [hsplit] at ih
        rcases List.mem_cons.1 h with rfl | h
        · obtain ⟨body, rfl, hbody⟩ := ih List.mem_cons_self
          exact ⟨b :: body, rfl, by simp [Ne.symm hb, hbody]⟩
        · exact ih (List.mem_cons_of_mem _ h)

theorem lineFeed_not_mem_dropLast {bytes : Bytes} {e : InputEnd} {line : Bytes}
    (h : line ∈ linesMet bytes e) : lineFeed ∉ line.dropLast := by
  rcases List.mem_append.1 h with h | h
  · obtain ⟨body, rfl, hbody⟩ := exists_body_of_mem_splitLines h
    rwa [List.dropLast_concat]
  · split at h
    · obtain rfl := List.mem_singleton.1 h
      exact fun hmem => lineFeed_not_mem_rest bytes (List.dropLast_subset _ hmem)
    · cases h

/-- What is read of a line holds no line feed, since at most the last byte of the line is one. -/
theorem newline_not_mem_dropEnd {bytes : Bytes} (hbytes : lineFeed ∉ bytes.dropLast) {t : Text}
    (h : Utf8.decode bytes = .ok t) : '\n' ∉ dropEnd t := by
  obtain rfl := Utf8.decode_eq_ok_iff.1 h
  rcases List.eq_nil_or_concat t with rfl | ⟨u, c, ht⟩
  · exact List.not_mem_nil
  rw [List.concat_eq_append] at ht
  subst ht
  have hu : '\n' ∉ u := by
    have hne : Utf8.encode [c] ≠ [] := Utf8.encode_ne_nil (List.cons_ne_nil c [])
    rw [Utf8.encode_append, List.dropLast_append_of_ne_nil hne] at hbytes
    exact fun hmem => hbytes (List.mem_append_left _ ((lineFeed_mem_encode_iff u).2 hmem))
  by_cases hc : c = '\n'
  · rw [hc, dropEnd_append_newline]
    exact fun hmem => hu (Text.mem_of_mem_chomp hmem)
  · have hall : '\n' ∉ u ++ [c] := List.not_mem_append hu (by simpa using Ne.symm hc)
    rwa [dropEnd_of_not_mem hall]

theorem newline_not_mem_of_mem_readLines {lines : List Bytes}
    (hlines : ∀ line ∈ lines, lineFeed ∉ line.dropLast) {t : Text} (h : t ∈ (readLines lines).1) :
    '\n' ∉ t := by
  induction lines with
  | nil => cases h
  | cons line rest ih =>
    obtain ⟨hline, hrest⟩ := List.forall_mem_cons.1 hlines
    cases hdecode : Utf8.decode line with
    | error f =>
      simp only [readLines, hdecode] at h
      cases h
    | ok u =>
      simp only [readLines, hdecode, List.mem_cons] at h
      rcases h with rfl | h
      · exact newline_not_mem_dropEnd hline hdecode
      · exact ih hrest h

/-! ## The whole session -/

namespace Session

theorem sink_continueWith {next : Session → Session} (h : ∀ s, (next s).sink = s.sink)
    (s : Session) : (s.continueWith next).sink = s.sink := by
  rw [continueWith]
  split
  · rfl
  · exact h s

theorem sink_breakOff (s : Session) (fault : Option Utf8.Fault) :
    (s.breakOff fault).sink = s.sink := by
  cases fault with
  | none => rfl
  | some f =>
    apply sink_continueWith
    intro s
    rfl

/-- The end of the input has an effect on the output only if there is a line left then. -/
theorem sink_finish (s : Session) (last : Bytes) (e : InputEnd) :
    (({ s with unfinished := last } : Session).finish e).sink =
      ((if e = .over ∧ last ≠ [] then [last] else []).foldl answerBytes s).sink := by
  match e with
  | .over =>
    have hstop : ∀ s : Session, ((s.log .inputEnded).stop .finished).sink = s.sink :=
      fun _ => rfl
    rw [finish_over_eq, sink_continueWith hstop]
    by_cases hlast : last = []
    · simp [hlast]
    · simp [hlast, answerBytes_unfinished]
  | .calledOff =>
    have hstop : ∀ s : Session, (s.stop .finished).sink = s.sink := fun _ => rfl
    exact sink_continueWith hstop _
  | .broken fault =>
    have hstop : ∀ s : Session, (s.stop (.failed (.stream fault))).sink = s.sink := fun _ => rfl
    exact sink_continueWith hstop _

/-- What a session writes that has room for it are the replies to the lines that it reads. -/
theorem output_eq {c : Config} (hc : c.validate = .ok ()) (pieces : List Bytes) (e : InputEnd) :
    (Session.run c pieces e none).output =
      ((linesRead pieces.flatten e).foldl answerLine (launch c none)).sink.written := by
  have hbegun := begun_launch hc
  rw [run_eq_close hc, feed_eq, hbegun.unfinished, List.nil_append, close]
  dsimp only
  rw [sink_finish, ← List.foldl_append, ← linesMet, foldl_answerBytes_eq, sink_breakOff, linesRead]

/-- A limit on the output cuts it off, and where it does, that is what the session fails for. -/
theorem output_of_room {c : Config} (hc : c.validate = .ok ()) (pieces : List Bytes)
    (e : InputEnd) (room : Option Nat) :
    (Session.run c pieces e room).output <+: (Session.run c pieces e none).output ∧
      ((Session.run c pieces e room).ending ≠ .failed (.stream .writeZero) →
        (Session.run c pieces e room).output = (Session.run c pieces e none).output) := by
  cases room with
  | none => exact ⟨List.prefix_rfl, fun _ => rfl⟩
  | some limit =>
    obtain ⟨houtput, hfits, hfull⟩ := (cut_finish hc pieces.flatten e limit).close
    rw [run_eq_close hc, run_eq_close hc]
    constructor
    · rw [houtput]
      exact List.take_prefix _ _
    · intro hending
      rw [hfits (Nat.le_of_not_lt fun hlt => hending (hfull hlt))]

end Session

/-! ## The main statement -/

/-- Launching is connecting and starting, as far as the configuration asks for that. -/
def launchCommands (c : Config) : List Command :=
  (if c.connectOnLaunch then [.connect] else []) ++ if c.startOnLaunch then [.start] else []

theorem outset_eq_carryOut (c : Config) :
    outset c = carryOut {} c.remoteName [] (launchCommands c) := by
  rw [outset, launchCommands]
  cases c.connectOnLaunch <;> cases c.startOnLaunch <;> rfl

theorem shows_outset (c : Config) :
    Shows (outset c) 0 c.remoteName (standing (launchCommands c)) := by
  rw [outset_eq_carryOut]
  exact shows_carryOut {} c.remoteName [] (launchCommands c)

/-- What is typed breaks no lines of the output.  A session without a usable configuration writes
nothing.  Any other session writes the replies to the lines that it reads, those that are not all
white space, up to the first that asks to quit; if there is no room for them, it writes the first
part of that.  A reply that holds a line feed is the help text, or it is a status, and then the line
feed stands in the name of the remote.  If there is none in that name, then whatever the input is
and however it ends, the output has a line for each line that is answered, and seven lines more for
each of them that asks for help. -/
theorem input_breaks_no_lines (c : Config) (pieces : List Bytes) (e : InputEnd)
    (room : Option Nat) :
    let o := Session.run c pieces e room
    let lines := linesRead pieces.flatten e
    let asked := answeredLines lines
    (c.validate ≠ .ok () → o.output = []) ∧
    (c.validate = .ok () → ∃ out, replies 0 (outset c) lines = .ok out ∧
      o.output <+: Utf8.encode (Text.unlines out) ∧
      List.Forall₂ (Answer c.remoteName) asked out ∧
      (o.ending ≠ .failed (.stream .writeZero) →
        o.output = Utf8.encode (Text.unlines out) ∧
        ('\n' ∉ c.remoteName → ∃ written, splitLines o.output = (written, []) ∧
          written.length = asked.length + 7 * asked.countP fun line => IsHelp line))) := by
  intro o lines asked
  constructor
  · intro hc
    cases hvalidate : c.validate with
    | error tooLarge => simp only [o, Session.run, Session.start?, hvalidate]
    | ok _ => exact absurd hvalidate hc
  · intro hc
    have hbegun := Session.begun_launch hc
    have hlines : ∀ line ∈ lines, '\n' ∉ line := fun line hline =>
      newline_not_mem_of_mem_readLines (fun _ => lineFeed_not_mem_dropLast) hline
    obtain ⟨out, hout, hall⟩ := exists_replies (shows_outset c) hlines
    have hwritten : (Session.run c pieces e none).output = Utf8.encode (Text.unlines out) := by
      obtain ⟨⟨out', hout', hwritten⟩, -⟩ := Session.foldl_answerLine hbegun.serving lines
      rw [hbegun.device, replies_congr hbegun.site, hout] at hout'
      obtain rfl := Except.ok.inj hout'
      rw [Session.output_eq hc, hwritten, hbegun.written, List.nil_append]
    obtain ⟨hpart, hequal⟩ := Session.output_of_room hc pieces e room
    rw [hwritten] at hpart hequal
    refine ⟨out, hout, hpart, hall, fun hending => ⟨hequal hending, fun hremote => ?_⟩⟩
    obtain ⟨written, hsplit, hlength⟩ := splitLines_unlines out
    refine ⟨written, (hequal hending).symm ▸ hsplit, ?_⟩
    rw [hlength, length_flatMap_pieces hall hremote]

/-- A carriage return and a vertical tab stand inside lines here, and only the first of two
questions for help comes before the line that quits: three answers, one of eight lines. -/
theorem input_breaks_no_lines_carriage_return :
    ∃ written, splitLines (Session.run {}
        [Utf8.encode "?\r\nparse s=a\rb\nlook\x0bup\n \nExit\n?".toList] .over none).output =
          (written, []) ∧ written.length = 10 := by
  obtain ⟨-, husable⟩ := input_breaks_no_lines {}
    [Utf8.encode "?\r\nparse s=a\rb\nlook\x0bup\n \nExit\n?".toList] .over none
  obtain ⟨out, -, -, -, hall⟩ := husable rfl
  obtain ⟨-, hcount⟩ := hall (by decide +kernel)
  obtain ⟨written, hwritten, hlength⟩ := hcount (by decide)
  have hlines := linesRead_encode "?\r\nparse s=a\rb\nlook\x0bup\n \nExit\n?".toList
  refine ⟨written, hwritten, hlength.trans ?_⟩
  rw [List.flatten_cons, List.flatten_nil, List.append_nil, hlines]
  decide

end Console

end DeviceTwin
