import DeviceTwin.Console.Session
import DeviceTwin.Proofs.Console.Execution
import DeviceTwin.Proofs.Console.Lines

/-!
# Sessions answer line by line

A session reads bytes in pieces, has launch options, rejects lines, and may quit early.  All of
that comes down to a fold over lines, `replies`: the lines are answered one after the other by
`execute` on one device, up to the first that asks to quit.  `run_eq_replies` is the main
statement.  It holds however the input is cut, and whatever stands behind the line that quits.
-/

namespace DeviceTwin.Console

/-! ## The lines that are written -/

/-- A line asks to quit. -/
def IsQuit (line : Text) : Prop := Command.parseLine line = .ok (some .quit)

/-- What is written in answer to lines: nothing for a blank line, and nothing more from the first
line on that asks to quit. -/
def replies (k : DeviceKey) (s : Site) : List Text → Except Panic (List Text)
  | [] => .ok []
  | line :: rest =>
    match Command.parseLine line with
    | .ok none => replies k s rest
    | .error e => (replies k s rest).map (errorText e.message :: ·)
    | .ok (some command) =>
      match (execute s k command).result with
      | .ok (.text t) => (replies k (execute s k command).site rest).map (t :: ·)
      | .ok .quit => .ok []
      | .error panic => .error panic

/-- A device on a new remote, as it is before the first line: the remote may have been connected,
and then the device may have been started. -/
def outset (c : Config) : Site :=
  let s := ((({} : Site).addRemote c.remoteName).1.addDevice 0 []).1
  let s := if c.connectOnLaunch then (s.setState 0 .connected).site else s
  if c.startOnLaunch then (s.start 0).site else s

/-- Replies do not depend on channels. -/
theorem replies_silent (k : DeviceKey) (s : Site) (lines : List Text) :
    replies k s.silent lines = replies k s lines := by
  induction lines generalizing s with
  | nil => rfl
  | cons line rest ih =>
    simp only [replies]
    cases Command.parseLine line with
    | error e => simp only [ih]
    | ok parsed =>
      cases parsed with
      | none => exact ih s
      | some command =>
        have h := silences_execute s k command
        simp only [h.result, h.site, ih]

theorem replies_congr {s s' : Site} (h : s.silent = s'.silent) (k : DeviceKey)
    (lines : List Text) : replies k s lines = replies k s' lines := by
  rw [← replies_silent, h, replies_silent]

namespace Session

/-! ## One line -/

/-- Answers a line that has no end any more. -/
def answerLine (s : Session) (line : Text) : Session :=
  s.continueWith fun s => (s.answer line).announce

theorem answerBytes_encode (s : Session) (line : Text) :
    s.answerBytes (Utf8.encode line) = s.answerLine (dropEnd line) := by
  simp [answerBytes, answerLine, Utf8.decode_encode]

/-- A session that has ended does nothing more. -/
theorem foldl_answerBytes_of_ended {s : Session} (h : s.ending.isSome = true)
    (lines : List Bytes) : lines.foldl answerBytes s = s := by
  induction lines with
  | nil => rfl
  | cons line rest ih => rw [List.foldl_cons, answerBytes, continueWith, if_pos h, ih]

theorem foldl_answerLine_of_ended {s : Session} (h : s.ending.isSome = true)
    (lines : List Text) : lines.foldl answerLine s = s := by
  induction lines with
  | nil => rfl
  | cons line rest ih => rw [List.foldl_cons, answerLine, continueWith, if_pos h, ih]

/-! ## What is not complete yet does not matter -/

section Unfinished

variable (s : Session) (bytes : Bytes)

theorem announce_unfinished :
    ({ s with unfinished := bytes } : Session).announce =
      { s.announce with unfinished := bytes } := by
  unfold announce
  dsimp only
  cases s.site.channel? s.events with
  | none => rfl
  | some channel => rfl

theorem write_unfinished (line : Text) :
    ({ s with unfinished := bytes } : Session).write line =
      { s.write line with unfinished := bytes } := by
  unfold write
  dsimp only
  split <;> rfl

theorem answer_unfinished (line : Text) :
    ({ s with unfinished := bytes } : Session).answer line =
      { s.answer line with unfinished := bytes } := by
  unfold answer
  cases Command.parseLine line with
  | error e => exact write_unfinished (s.log (.lineRejected line e.message)) bytes _
  | ok parsed =>
    cases parsed with
    | none => rfl
    | some command =>
      simp only [after]
      cases (execute s.site s.device command).result with
      | error panic => rfl
      | ok reply =>
        cases reply with
        | quit => rfl
        | text t =>
          let s₁ : Session := { s with
            site := (execute s.site s.device command).site
            trace := s.trace ++ (execute s.site s.device command).trace }
          exact write_unfinished s₁ bytes t

theorem answerBytes_unfinished (line : Bytes) :
    ({ s with unfinished := bytes } : Session).answerBytes line =
      { s.answerBytes line with unfinished := bytes } := by
  unfold answerBytes continueWith
  dsimp only
  split
  · rfl
  · cases Utf8.decode line with
    | error f => rfl
    | ok text =>
      dsimp only
      rw [answer_unfinished, announce_unfinished]

theorem foldl_answerBytes_unfinished (lines : List Bytes) :
    lines.foldl answerBytes { s with unfinished := bytes } =
      { lines.foldl answerBytes s with unfinished := bytes } := by
  induction lines generalizing s with
  | nil => rfl
  | cons line rest ih => rw [List.foldl_cons, answerBytes_unfinished, ih, List.foldl_cons]

end Unfinished

/-! ## Where the input is cut does not matter -/

theorem feed_eq (s : Session) (piece : Bytes) :
    s.feed piece =
      { (splitLines (s.unfinished ++ piece)).1.foldl answerBytes s with
        unfinished := (splitLines (s.unfinished ++ piece)).2 } := rfl

theorem feed_append (s : Session) (first second : Bytes) :
    (s.feed first).feed second = s.feed (first ++ second) := by
  rw [feed_eq (s.feed first), feed_eq s first, feed_eq s (first ++ second),
    foldl_answerBytes_unfinished, ← List.append_assoc, splitLines_append (s.unfinished ++ first),
    List.foldl_append]

theorem feed_nil {s : Session} (h : lineFeed ∉ s.unfinished) : s.feed [] = s := by
  rw [feed_eq, List.append_nil, splitLines_of_not_mem h]
  rfl

/-- Feeding pieces is feeding all that they hold in one piece. -/
theorem foldl_feed {s : Session} (h : lineFeed ∉ s.unfinished) (pieces : List Bytes) :
    pieces.foldl feed s = s.feed pieces.flatten := by
  induction pieces generalizing s with
  | nil => exact (feed_nil h).symm
  | cons piece rest ih =>
    have hrest : lineFeed ∉ (s.feed piece).unfinished := lineFeed_not_mem_rest _
    rw [List.foldl_cons, ih hrest, feed_append, List.flatten_cons]

/-! ## A session that goes on -/

/-- A session has not ended, its device can be used, and all output is taken. -/
structure Serving (s : Session) : Prop where
  ready : s.site.Ready s.device
  going : s.ending = none
  sink : s.sink.TakesAll

/-- Announcing status changes leaves everything but channels and the log alone. -/
theorem announce_eq (s : Session) :
    ∃ site trace, s.announce = { s with site, trace } ∧ site.silent = s.site.silent ∧
      site.remotes = s.site.remotes ∧ site.devices = s.site.devices := by
  unfold announce
  cases s.site.channel? s.events with
  | none => exact ⟨s.site, s.trace, rfl, rfl, rfl, rfl⟩
  | some channel => exact ⟨_, _, rfl, rfl, rfl, rfl⟩

/-- A line is written as a whole. -/
theorem write_of_takesAll {s : Session} (h : s.sink.TakesAll) (line : Text) :
    s.write line =
      { s with sink := { s.sink with
          written := s.sink.written ++ Utf8.encode (Text.unlines [line]) } } := by
  simp [write, h.put, Text.unlines]

/-- What one line does to a session that goes on, if the line does not ask to quit. -/
structure Answered (s : Session) (line : Text) (s' : Session) (out : List Text) : Prop where
  serving : s'.Serving
  device : s'.device = s.device
  written : s'.sink.written = s.sink.written ++ Utf8.encode (Text.unlines out)
  replies : ∀ rest, replies s.device s.site (line :: rest) =
    (replies s'.device s'.site rest).map (out ++ ·)

/-- Status changes may be announced after a line. -/
theorem Answered.announce {s s' : Session} {line : Text} {out : List Text}
    (h : Answered s line s' out) : Answered s line s'.announce out := by
  obtain ⟨site, trace, hs, hsilent, hremotes, hdevices⟩ := s'.announce_eq
  rw [hs]
  refine ⟨⟨h.serving.ready.of_eq hremotes hdevices, h.serving.going, h.serving.sink⟩, h.device,
    h.written, ?_⟩
  intro rest
  rw [h.replies rest, replies_congr hsilent]

/-- A line is written in answer. -/
theorem answered_write {s s₁ : Session} {line t : Text} (h : s₁.Serving)
    (hdevice : s₁.device = s.device) (hsink : s₁.sink = s.sink)
    (hreplies : ∀ rest, replies s.device s.site (line :: rest) =
      (replies s₁.device s₁.site rest).map (t :: ·)) :
    Answered s line (s₁.write t) [t] := by
  rw [write_of_takesAll h.sink]
  refine ⟨⟨h.ready, h.going, h.sink.with_written _⟩, hdevice, ?_, hreplies⟩
  rw [hsink]

theorem exists_answered {s : Session} (h : s.Serving) {line : Text} (hquit : ¬ IsQuit line) :
    ∃ out, Answered s line (s.answerLine line) out := by
  have hgoing : s.answerLine line = (s.answer line).announce := by
    rw [answerLine, continueWith, h.going]
    rfl
  rw [hgoing]
  cases hparse : Command.parseLine line with
  | error e =>
    refine ⟨[errorText e.message], Answered.announce ?_⟩
    have hanswer : s.answer line = (s.log (.lineRejected line e.message)).write
        (errorText e.message) := by simp only [answer, hparse]
    rw [hanswer]
    refine answered_write ⟨h.ready, h.going, h.sink⟩ rfl rfl ?_
    intro rest
    simp only [Console.replies, hparse]
    rfl
  | ok parsed =>
    cases parsed with
    | none =>
      refine ⟨[], Answered.announce ?_⟩
      have hanswer : s.answer line = s := by simp only [answer, hparse]
      rw [hanswer]
      refine ⟨h, rfl, by simp [Text.unlines, Utf8.encode], ?_⟩
      intro rest
      simp only [Console.replies, hparse, List.nil_append]
      cases Console.replies s.device s.site rest <;> rfl
    | some command =>
      have hne : command ≠ .quit := fun heq => hquit (by rw [IsQuit, hparse, heq])
      obtain ⟨t, hresult, hready⟩ := execute_of_ready h.ready hne
      refine ⟨[t], Answered.announce ?_⟩
      have hanswer : s.answer line = Session.write
          { s with
            site := (execute s.site s.device command).site
            trace := s.trace ++ (execute s.site s.device command).trace } t := by
        simp only [answer, hparse, after, hresult]
      rw [hanswer]
      refine answered_write ⟨hready, h.going, h.sink⟩ rfl rfl ?_
      intro rest
      simp only [Console.replies, hparse, hresult]

/-- A line that asks to quit ends the session, and nothing is written. -/
theorem answerLine_of_quit {s : Session} (h : s.Serving) {line : Text} (hquit : IsQuit line) :
    (s.answerLine line).ending = some .finished ∧ (s.answerLine line).sink = s.sink := by
  have hstop : ∃ s', s.answer line = s' ∧ s'.ending = some .finished ∧ s'.sink = s.sink := by
    rw [IsQuit] at hquit
    refine ⟨_, rfl, ?_, ?_⟩ <;> simp only [answer, hquit, after, execute, stop]
  obtain ⟨s', hs', hending, hsink⟩ := hstop
  obtain ⟨site, trace, hannounce, -⟩ := s'.announce_eq
  have hline : s.answerLine line = s'.announce := by
    rw [answerLine, continueWith, h.going, ← hs']
    rfl
  rw [hline, hannounce]
  exact ⟨hending, hsink⟩

theorem replies_of_quit {line : Text} (hquit : IsQuit line) (k : DeviceKey) (s : Site)
    (rest : List Text) : Console.replies k s (line :: rest) = .ok [] := by
  rw [IsQuit] at hquit
  simp only [Console.replies, hquit, execute]

/-! ## All lines -/

/-- Answering lines writes the replies to them.  The session goes on exactly if none of the lines
asks to quit. -/
theorem foldl_answerLine {s : Session} (h : s.Serving) (lines : List Text) :
    (∃ out, replies s.device s.site lines = .ok out ∧ (lines.foldl answerLine s).sink.written =
        s.sink.written ++ Utf8.encode (Text.unlines out)) ∧
      ((∀ line ∈ lines, ¬ IsQuit line) ∧ (lines.foldl answerLine s).ending = none ∨
        (∃ line ∈ lines, IsQuit line) ∧
          (lines.foldl answerLine s).ending = some .finished) := by
  induction lines generalizing s with
  | nil => exact ⟨⟨[], rfl, by simp [Text.unlines, Utf8.encode]⟩, Or.inl ⟨by simp, h.going⟩⟩
  | cons line rest ih =>
    rw [List.foldl_cons]
    by_cases hquit : IsQuit line
    · obtain ⟨hending, hsink⟩ := answerLine_of_quit h hquit
      rw [foldl_answerLine_of_ended (by rw [hending]; rfl), hsink]
      refine ⟨⟨[], replies_of_quit hquit _ _ _, by simp [Text.unlines, Utf8.encode]⟩, ?_⟩
      exact Or.inr ⟨⟨line, by simp, hquit⟩, hending⟩
    · obtain ⟨out, hanswered⟩ := exists_answered h hquit
      obtain ⟨⟨more, hmore, hwritten⟩, hending⟩ := ih hanswered.serving
      refine ⟨⟨out ++ more, ?_, ?_⟩, ?_⟩
      · rw [hanswered.replies, hmore]
        rfl
      · have hunlines : Text.unlines (out ++ more) = Text.unlines out ++ Text.unlines more :=
          List.flatMap_append
        rw [hwritten, hanswered.written, hunlines, Utf8.encode_append, List.append_assoc]
      · rcases hending with ⟨hnone, hending⟩ | ⟨⟨x, hx, hxquit⟩, hending⟩
        · refine Or.inl ⟨?_, hending⟩
          intro x hx
          rcases List.mem_cons.1 hx with rfl | hx
          · exact hquit
          · exact hnone x hx
        · exact Or.inr ⟨⟨x, by simp [hx], hxquit⟩, hending⟩

/-! ## The beginning -/

/-- A session before its first line, of which the site is like a given one but for channels. -/
structure Begun (s : Session) (site : Site) : Prop where
  serving : s.Serving
  device : s.device = 0
  unfinished : s.unfinished = []
  written : s.sink.written = []
  site : s.site.silent = site.silent

/-- The device has not been started, and nothing observes its remote. -/
structure Untouched (s : Site) : Prop where
  device : ∃ d, s.device? 0 = some d ∧ d.remote = 0 ∧ d.started = false
  remote : ∃ r, s.remote? 0 = some r ∧ r.observers = []

theorem begun_furnish {c : Config} (hc : c.validate = .ok ()) :
    ∃ s, furnish c none = (s, 0) ∧
      s.Begun ((({} : Site).addRemote c.remoteName).1.addDevice 0 []).1 ∧ Untouched s.site := by
  have hbuffer := c.validate_eq_ok_iff.1 hc
  have hlimit : ¬ Channel.bufferLimit ≤ c.eventBuffer.toNat := by
    have hmax : Config.maxEventBuffer < Channel.bufferLimit := by decide
    omega
  simp only [furnish, Site.addChannel, hlimit, if_false]
  refine ⟨_, rfl, ⟨⟨Site.Ready.of_new rfl rfl, rfl, ⟨rfl, rfl⟩⟩, rfl, rfl, rfl, rfl⟩, ?_⟩
  exact ⟨⟨_, rfl, rfl, rfl⟩, ⟨_, rfl, rfl⟩⟩

/-- Nobody hears that the remote is connected on launch. -/
theorem Begun.connectOnLaunch {s : Session} {site : Site} (h : s.Begun site) (c : Config)
    (hs : Untouched s.site) :
    (connectOnLaunch c 0 s).Begun
        (if c.connectOnLaunch then (site.setState 0 .connected).site else site) ∧
      Untouched (connectOnLaunch c 0 s).site := by
  by_cases hc : c.connectOnLaunch = true
  · obtain ⟨r, hr, hobs⟩ := hs.remote
    obtain ⟨hresult, hready⟩ := h.serving.ready.setState hr .connected
    have hconnect : Session.connectOnLaunch c 0 s =
        { s with
          site := (s.site.setState 0 .connected).site
          trace := s.trace ++ (s.site.setState 0 .connected).trace } := by
      simp only [Session.connectOnLaunch, hc, if_true, after, hresult]
    rw [hconnect, if_pos hc]
    refine ⟨⟨⟨hready, h.serving.going, h.serving.sink⟩, h.device, h.unfinished, h.written,
      Site.setState_silent_congr 0 h.site .connected⟩, ?_⟩
    rcases Site.setState_cases s.site 0 .connected [] with ⟨hsame, -⟩ | ⟨r₀, hr₀, -, -, he⟩
    · rwa [hsame]
    · obtain rfl : r₀ = r := by simpa [hr] using hr₀.symm
      refine ⟨?_, ⟨_, (he.remote? 0).trans (if_pos rfl), hobs⟩⟩
      have hdevice := he.device?_of_not_told 0 (by simp [hobs, told])
      rw [hdevice]
      exact hs.device
  · have hc : c.connectOnLaunch = false := by simpa using hc
    simp only [Session.connectOnLaunch, hc, Bool.false_eq_true, if_false]
    exact ⟨h, hs⟩

theorem Begun.startOnLaunch {s : Session} {site : Site} (h : s.Begun site) (c : Config)
    (hs : Untouched s.site) :
    (startOnLaunch c s).Begun (if c.startOnLaunch then (site.start 0).site else site) := by
  by_cases hc : c.startOnLaunch = true
  · obtain ⟨d, hd, hremote, hstarted⟩ := hs.device
    obtain ⟨r, hr, -⟩ := hs.remote
    have hready : s.site.Ready 0 := h.device ▸ h.serving.ready
    obtain ⟨hresult, hready'⟩ := hready.start hd (hremote ▸ hr)
    have hstart : Session.startOnLaunch c s =
        { s with
          site := (s.site.start 0).site
          trace := s.trace ++ (s.site.start 0).trace } := by
      simp only [Session.startOnLaunch, hc, if_true, after, h.device, hresult, hstarted,
        Bool.false_eq_true, if_false]
    rw [hstart, if_pos hc]
    refine ⟨⟨?_, h.serving.going, h.serving.sink⟩, h.device, h.unfinished, h.written,
      Site.start_silent_congr 0 h.site⟩
    exact h.device.symm ▸ hready'
  · have hc : c.startOnLaunch = false := by simpa using hc
    simp only [Session.startOnLaunch, hc, Bool.false_eq_true, if_false]
    exact h

theorem Begun.announce {s : Session} {site : Site} (h : s.Begun site) : s.announce.Begun site := by
  obtain ⟨site', trace, hs, hsilent, hremotes, hdevices⟩ := s.announce_eq
  rw [hs]
  exact ⟨⟨h.serving.ready.of_eq hremotes hdevices, h.serving.going, h.serving.sink⟩, h.device,
    h.unfinished, h.written, hsilent.trans h.site⟩

theorem begun_launch {c : Config} (hc : c.validate = .ok ()) :
    (launch c none).Begun (outset c) := by
  obtain ⟨s, hfurnish, hbegun, huntouched⟩ := begun_furnish hc
  obtain ⟨hconnected, huntouched⟩ := hbegun.connectOnLaunch c huntouched
  have hstarted := hconnected.startOnLaunch c huntouched
  have hgoing : ∀ {s : Session} {next : Session → Session}, s.ending = none →
      s.continueWith next = next s := by
    intro s next h
    simp [continueWith, h]
  have hlaunch : launch c none =
      (Session.startOnLaunch c (Session.connectOnLaunch c 0 s)).announce := by
    simp only [launch, hfurnish]
    rw [hgoing hbegun.serving.going, hgoing hconnected.serving.going]
  rw [hlaunch]
  exact hstarted.announce

/-! ## The end -/

theorem encode_eq_nil_iff (t : Text) : Utf8.encode t = [] ↔ t = [] := by
  cases t with
  | nil => exact ⟨fun _ => rfl, fun _ => rfl⟩
  | cons c t =>
    rw [Utf8.encode_cons]
    simp [String.utf8EncodeChar_ne_nil]

/-- At the end of the input a line that is not complete is answered like any other. -/
theorem finish_over (s : Session) {last : Text} (hlast : '\n' ∉ last) :
    (({ s with unfinished := Utf8.encode last } : Session).finish .over).sink =
        ((if last = [] then [] else [last]).foldl answerLine s).sink ∧
      (({ s with unfinished := Utf8.encode last } : Session).finish .over).ending =
        some (((if last = [] then [] else [last]).foldl answerLine s).ending.getD .finished) := by
  by_cases hended : s.ending.isSome = true
  · obtain ⟨ending, hending⟩ := Option.isSome_iff_exists.1 hended
    rw [foldl_answerLine_of_ended hended]
    simp [finish, continueWith, hending]
  · have hending : s.ending = none := by simpa using hended
    by_cases hnil : last = []
    · subst hnil
      simp [finish, continueWith, hending, Utf8.encode, stop, log]
    · have hbytes : Utf8.encode last ≠ [] := fun h => hnil ((encode_eq_nil_iff last).1 h)
      have hanswer : ({ s with unfinished := Utf8.encode last } : Session).answerBytes
          (Utf8.encode last) = { s.answerLine last with unfinished := Utf8.encode last } := by
        rw [answerBytes_unfinished, answerBytes_encode, dropEnd_of_not_mem hlast]
      have hfinish : ({ s with unfinished := Utf8.encode last } : Session).finish .over =
          ({ s.answerLine last with unfinished := Utf8.encode last } : Session).continueWith
            fun s => (s.log .inputEnded).stop .finished := by
        rw [finish, continueWith, if_neg (by simp [hending])]
        dsimp only
        rw [if_neg hbytes, hanswer]
      rw [hfinish, if_neg hnil, List.foldl_cons, List.foldl_nil, continueWith]
      cases hafter : (s.answerLine last).ending with
      | none => simp [stop, log]
      | some ending => simp [hafter]

/-- What has been fed and not been answered is what the last line lacks. -/
theorem feed_encode {s : Session} (hs : s.unfinished = []) {ended : List Text} {last t : Text}
    (ht : Text.pieces '\n' t = ended ++ [last]) :
    s.feed (Utf8.encode t) =
      { (ended.map Text.chomp).foldl answerLine s with unfinished := Utf8.encode last } := by
  have hfold : ∀ s : Session, (ended.map fun line => Utf8.encode (line ++ ['\n'])).foldl
      answerBytes s = (ended.map Text.chomp).foldl answerLine s := by
    intro s
    simp only [List.foldl_map, answerBytes_encode, dropEnd_append_newline]
  rw [feed_eq, hs, List.nil_append, splitLines_encode ht, hfold]

/-- A session that has ended takes no notice of what follows. -/
theorem finish_feed_of_ended {s : Session} (h : s.ending.isSome = true) (bytes : Bytes) :
    ((s.feed bytes).finish .over).close = (s.finish .over).close := by
  rw [feed_eq, foldl_answerBytes_of_ended h]
  simp [finish, continueWith, h, close]

end Session

open Session

/-- A text that ends with a line feed has nothing unfinished. -/
theorem lines_of_getLast? {t : Text} (h : t.getLast? = some '\n') :
    ∃ ended, Text.pieces '\n' t = ended ++ [[]] := by
  obtain ⟨u, rfl⟩ := List.getLast?_eq_some_iff.1 h
  exact ⟨Text.pieces '\n' u, Text.pieces_append_singleton '\n' u⟩

/-! ## The main statement -/

/-- A session whose input is a text writes the replies to the lines of the text. -/
theorem run_encode {c : Config} (hc : c.validate = .ok ()) (t : Text) :
    ∃ out, replies 0 (outset c) t.lines = .ok out ∧
      (Session.run c [Utf8.encode t] .over none).ending = .finished ∧
      (Session.run c [Utf8.encode t] .over none).output = Utf8.encode (Text.unlines out) := by
  have hbegun := begun_launch hc
  obtain ⟨ended, last, ht⟩ : ∃ ended last, Text.pieces '\n' t = ended ++ [last] := by
    rcases List.eq_nil_or_concat (Text.pieces '\n' t) with hnil | ⟨ended, last, h⟩
    · exact absurd hnil (Text.pieces_ne_nil '\n' t)
    · exact ⟨ended, last, by rw [h, List.concat_eq_append]⟩
  have hlast : '\n' ∉ last := Text.sep_not_mem_of_mem_pieces (by rw [ht]; simp)
  have hlines : t.lines = ended.map Text.chomp ++ if last = [] then [] else [last] := by
    rw [Text.lines, ht, Text.linesOfPieces_append]
  have hrun : Session.run c [Utf8.encode t] .over none =
      ((({ (ended.map Text.chomp).foldl answerLine (launch c none) with
        unfinished := Utf8.encode last } : Session).finish .over).close) := by
    simp only [Session.run, start?, hc, List.foldl_cons, List.foldl_nil,
      feed_encode hbegun.unfinished ht]
  obtain ⟨hsink, hending⟩ := finish_over ((ended.map Text.chomp).foldl answerLine (launch c none))
    hlast
  rw [← List.foldl_append, ← hlines] at hsink hending
  obtain ⟨⟨out, hout, hwritten⟩, hcases⟩ := foldl_answerLine hbegun.serving t.lines
  have hfinished : (t.lines.foldl answerLine (launch c none)).ending.getD .finished =
      .finished := by
    rcases hcases with ⟨-, h⟩ | ⟨-, h⟩ <;> rw [h] <;> rfl
  rw [hbegun.device, replies_congr hbegun.site] at hout
  refine ⟨out, hout, ?_, ?_⟩
  · rw [hrun, close, hending, hfinished]
    rfl
  · rw [hrun, close, hsink, hwritten, hbegun.written, List.nil_append]

/-- Where the input is cut does not matter, and nothing after a line that asks to quit does. -/
theorem run_eq_run_encode {c : Config} (hc : c.validate = .ok ()) {t : Text} {rest : Bytes}
    {pieces : List Bytes} (hpieces : pieces.flatten = Utf8.encode t ++ rest)
    (hrest : rest = [] ∨ t.getLast? = some '\n' ∧ ∃ line ∈ t.lines, IsQuit line) :
    Session.run c pieces .over none = Session.run c [Utf8.encode t] .over none := by
  have hbegun := begun_launch hc
  have hnone : lineFeed ∉ (launch c none).unfinished := by simp [hbegun.unfinished]
  have hrun : ∀ pieces, Session.run c pieces .over none =
      (((launch c none).feed pieces.flatten).finish .over).close := by
    intro pieces
    simp only [Session.run, start?, hc, foldl_feed hnone]
  have hflatten : [Utf8.encode t].flatten = Utf8.encode t := by simp
  rw [hrun, hrun, hpieces, hflatten]
  rcases hrest with rfl | ⟨hlast, hquit⟩
  · rw [List.append_nil]
  · obtain ⟨ended, ht⟩ := lines_of_getLast? hlast
    have hlines : t.lines = ended.map Text.chomp := by
      rw [Text.lines, ht, Text.linesOfPieces_append, if_pos rfl, List.append_nil]
    have hended : ((launch c none).feed (Utf8.encode t)).ending.isSome = true := by
      rw [feed_encode hbegun.unfinished ht, ← hlines]
      obtain ⟨line, hline, hquit⟩ := hquit
      rcases (foldl_answerLine hbegun.serving t.lines).2 with ⟨hnot, -⟩ | ⟨-, h⟩
      · exact absurd hquit (hnot line hline)
      · rw [h]
        rfl
    rw [← feed_append, finish_feed_of_ended hended]

/-- Sessions answer line by line.  A session with room for its output comes to its end without a
failure, and has written the replies to the lines of its input: of all lines if none asks to quit,
and else of those before the first that does.  The input is a text as far as that line, and may be
anything behind it.  Neither where it is cut nor what stands behind that line leaves any trace. -/
theorem run_eq_replies (c : Config) (t : Text) (rest : Bytes) (pieces : List Bytes)
    (hc : c.validate = .ok ()) (hpieces : pieces.flatten = Utf8.encode t ++ rest)
    (hrest : rest = [] ∨ t.getLast? = some '\n' ∧ ∃ line ∈ t.lines, IsQuit line) :
    ∃ out, replies 0 (outset c) t.lines = .ok out ∧
      (Session.run c pieces .over none).ending = .finished ∧
      (Session.run c pieces .over none).output = Utf8.encode (Text.unlines out) ∧
      Session.run c pieces .over none = Session.run c [Utf8.encode t] .over none := by
  have hsame := run_eq_run_encode hc hpieces hrest
  obtain ⟨out, hout, hending, houtput⟩ := run_encode hc t
  exact ⟨out, hout, by rw [hsame, hending], by rw [hsame, houtput], hsame⟩

/-- A session that is cut inside a character and inside the end of a line, and that quits before
bytes that are not a text. -/
theorem run_eq_replies_cut :
    (Session.run {} [[63, 10, 195], [169, 13], [10, 113, 117, 105, 116, 10, 255]] .over
        none).ending = .finished ∧
      (Session.run {} [[63, 10, 195], [169, 13], [10, 113, 117, 105, 116, 10, 255]] .over
        none).output = Utf8.encode (Text.unlines
          [helpText, "error: Unknown command \"é\", try \"help\"".toList]) := by
  obtain ⟨out, hout, hending, houtput, -⟩ := run_eq_replies {} "?\né\r\nquit\n".toList [255]
    [[63, 10, 195], [169, 13], [10, 113, 117, 105, 116, 10, 255]] rfl (by decide)
    (Or.inr ⟨by decide, "quit".toList, by decide, rfl⟩)
  have hreplies : replies 0 (outset {}) (Text.lines "?\né\r\nquit\n".toList) =
      .ok [helpText, "error: Unknown command \"é\", try \"help\"".toList] := by
    rfl
  rw [hreplies] at hout
  exact ⟨hending, by rw [houtput, Except.ok.inj hout]⟩

end DeviceTwin.Console
