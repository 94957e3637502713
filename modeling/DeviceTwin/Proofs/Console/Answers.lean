import DeviceTwin.Proofs.Console.CommandGrammar
import DeviceTwin.Proofs.Console.Standing
import DeviceTwin.Proofs.Console.Transcript
import DeviceTwin.Proofs.NodeId.Grammar
import DeviceTwin.Proofs.Text.Quoted

/-!
# What a reply can hold

Only two kinds of replies hold a line feed: the help text, and a status that shows the name of a
remote with one (`Answer`).  Words that are refused stand in quotes.  The arguments of `lookup` and
`parse` are shown as they are, but they come out of a line, and what is shown of an identifier that
is a text is the end of the argument (`NodeId.isSuffix_of_parse`).

`answer_of_reply` goes through the commands, and `exists_replies` through the lines of a session,
with `Shows` as the invariant.
-/

namespace DeviceTwin

/-! ## Messages -/

namespace Text

theorem newline_not_mem_of_visible {t : Text} (h : Visible t) : '\n' ∉ t :=
  h.not_mem (by decide)

theorem visible_around_quote {before after : Text} (hbefore : before.all isPlain = true)
    (hafter : after.all isPlain = true) (t : Text) : Visible (before ++ quote t ++ after) := by
  rw [visible_append, visible_append]
  exact ⟨⟨visible_of_isPlain hbefore, visible_quote t⟩, visible_of_isPlain hafter⟩

end Text

open Text (Visible visible_around_quote newline_not_mem_of_visible)

theorem NodeId.ParseError.visible_message (e : NodeId.ParseError) : Visible e.message := by
  cases e with
  | empty => exact Text.visible_of_isPlain (by decide)
  | missingTerminator input => exact visible_around_quote (by decide) (by decide) input
  | invalidSpace value => exact @visible_around_quote [] _ rfl (by decide) value
  | invalidNumber value => exact @visible_around_quote [] _ rfl (by decide) value

theorem StartError.visible_message (e : StartError) : Visible e.message :=
  visible_around_quote (by decide) (by decide) _

theorem Console.CommandError.visible_message (e : CommandError) : Visible e.message := by
  cases e with
  | unknown word => exact visible_around_quote (by decide) (by decide) word
  | missingArgument word => exact visible_around_quote (by decide) (by decide) word
  | unexpectedArgument word => exact visible_around_quote (by decide) (by decide) word

/-! ## Nodes -/

theorem Numeral.newline_not_mem_render (n : Nat) : '\n' ∉ render n := by
  intro hmem
  have hdigit := isDigit_of_mem_render hmem
  simp at hdigit

theorem NodeId.newline_not_mem_render {id : NodeId}
    (h : ∀ t, id.identifier = .text t → '\n' ∉ t) : '\n' ∉ id.render := by
  have hidentifier : '\n' ∉ renderIdentifier id.identifier := by
    cases hcase : id.identifier with
    | numeric n => simp [renderIdentifier, Numeral.newline_not_mem_render]
    | text t => simp [renderIdentifier, h t hcase]
  rw [render]
  split
  · exact hidentifier
  · simp [hidentifier, Numeral.newline_not_mem_render]

namespace Console

theorem newline_not_mem_errorText {reason : Text} (h : Visible reason) :
    '\n' ∉ errorText reason :=
  List.not_mem_append (by decide) (newline_not_mem_of_visible h)

theorem newline_not_mem_of_nameOf {index : UInt16} {name : Text}
    (h : Namespaces.nameOf index = some name) : '\n' ∉ name := by
  have hall : ∀ entry ∈ Namespaces.names, '\n' ∉ entry.2 := by decide
  obtain ⟨entry, hentry, rfl⟩ := Option.map_eq_some_iff.1 h
  exact hall entry (List.mem_of_find?_eq_some hentry)

theorem newline_not_mem_of_standardName? {id : NodeId} {name : Text}
    (h : standardName? id = some name) : '\n' ∉ name := by
  have hall : ∀ row ∈ StandardNodes.table, '\n' ∉ row.name := by decide +kernel
  rw [standardName?] at h
  split at h
  · obtain ⟨number, -, hname⟩ := Option.bind_eq_some_iff.1 h
    obtain ⟨row, hrow, rfl⟩ := Option.map_eq_some_iff.1 hname
    exact hall row (List.mem_of_find?_eq_some hrow)
  · cases h

/-- A standard node is shown behind the name by which it was looked up. -/
theorem newline_not_mem_lookupText {name : Text} (h : '\n' ∉ name) : '\n' ∉ lookupText name := by
  rw [lookupText]
  split
  · next id hid =>
    obtain ⟨row, -, rfl⟩ := Option.map_eq_some_iff.1 hid
    have hrender : '\n' ∉ (NodeId.standard row.number).render :=
      NodeId.newline_not_mem_render (by rintro t ⟨⟩)
    exact List.not_mem_append (List.not_mem_append h (by decide)) hrender
  · exact List.not_mem_append (by decide) (newline_not_mem_of_visible (Text.visible_quote name))

theorem newline_not_mem_describeId {id : NodeId} (h : '\n' ∉ id.render) :
    '\n' ∉ describeId id := by
  have hspace : '\n' ∉ (Namespaces.nameOf id.space).getD "unknown namespace".toList := by
    cases hname : Namespaces.nameOf id.space with
    | none => decide
    | some name => exact newline_not_mem_of_nameOf hname
  rw [describeId]
  generalize (Namespaces.nameOf id.space).getD "unknown namespace".toList = space at hspace
  split
  · next name hname => simp [h, hspace, newline_not_mem_of_standardName? hname]
  · simp [h, hspace]

/-- What is shown of an identifier that is a text is the end of the argument. -/
theorem newline_not_mem_parseText {t : Text} (h : '\n' ∉ t) : '\n' ∉ parseText t := by
  rw [parseText]
  split
  · next id hid =>
    apply newline_not_mem_describeId
    apply NodeId.newline_not_mem_render
    intro u hu hmem
    obtain ⟨space, identifier⟩ := id
    obtain rfl : identifier = .text u := hu
    exact h ((NodeId.isSuffix_of_parse hid).subset hmem)
  · exact newline_not_mem_errorText (NodeId.ParseError.visible_message _)

theorem newline_mem_of_mem_statusText {status : Status} {model : Model} {remote : Text}
    {state : Connection} (h : '\n' ∈ statusText status model remote state) : '\n' ∈ remote := by
  have hstatus : '\n' ∉ status.name := by cases status <;> decide
  have hstate : '\n' ∉ state.name := by cases state <;> decide
  have hloaded : '\n' ∉ if model.loaded then "loaded".toList else "empty".toList := by
    split <;> decide
  have hloads := Numeral.newline_not_mem_render model.loads
  unfold statusText at h
  simp only [List.mem_append, hstatus, hstate, hloaded, hloads, or_false] at h
  simpa using h

/-! ## Lines and their replies -/

instance (line : Text) : Decidable (IsQuit line) :=
  inferInstanceAs (Decidable (Command.parseLine line = .ok (some .quit)))

/-- A line asks for help. -/
def IsHelp (line : Text) : Prop := Command.parseLine line = .ok (some .help)

instance (line : Text) : Decidable (IsHelp line) :=
  inferInstanceAs (Decidable (Command.parseLine line = .ok (some .help)))

/-- The commands that are answered with a status, unless they are refused. -/
def Command.showsStatus (c : Command) : Prop :=
  c = connect ∨ c = disconnect ∨ c = start ∨ c = status

/-- What answers a line, as far as line feeds are concerned: a line that asks for help is answered
with the help text, and if the reply to another line holds a line feed, then that stands in the name
of the remote, and the reply is the status that a command asked for.  So there is none in the reply
to a line that is refused, or that has an argument. -/
structure Answer (remote line reply : Text) : Prop where
  help : IsHelp line → reply = helpText
  broken : ¬ IsHelp line → '\n' ∈ reply → '\n' ∈ remote ∧
    ∃ c, c.showsStatus ∧ Command.parseLine line = .ok (some c) ∧
      ∃ status model state, reply = statusText status model remote state

theorem Answer.of_not_mem {remote line reply : Text} (hhelp : ¬ IsHelp line) (h : '\n' ∉ reply) :
    Answer remote line reply where
  help := fun hline => absurd hline hhelp
  broken := fun _ hmem => absurd hmem h

theorem Answer.of_line {remote line : Text} {c : Command}
    (hline : Command.parseLine line = .ok (some c)) (hc : c.showsStatus) (x : Standing) :
    Answer remote line (x.line remote) := by
  have hhelp : ¬ IsHelp line := by
    intro h
    obtain rfl : c = .help := by simpa [IsHelp, hline] using h
    simp [Command.showsStatus] at hc
  rw [x.line_eq_statusText]
  constructor
  · exact fun h => absurd h hhelp
  · intro _ hmem
    exact ⟨newline_mem_of_mem_statusText hmem, c, hc, hline, _, _, _, rfl⟩

/-- An argument is part of its line. -/
theorem argument_subset {line argument : Text} {c : Command}
    (h : Command.parseLine line = .ok (some c)) (hargument : c.argument? = some argument) :
    argument ⊆ line := by
  rcases parseLine_eq_some_iff.1 h with ⟨hnone⟩ | ⟨hsome, -, -, -, -, -, -, -, rfl⟩
  · simp [hnone] at hargument
  · obtain rfl := Option.some.inj (hsome.symm.trans hargument)
    intro c hc
    simp [hc]

theorem answer_of_error {remote line : Text} {e : CommandError}
    (h : Command.parseLine line = .error e) : Answer remote line (errorText e.message) := by
  apply Answer.of_not_mem
  · simp [IsHelp, h]
  · exact newline_not_mem_errorText e.visible_message

theorem eq_quit_of_reply {remote : Text} {c : Command} {x : Standing}
    (h : x.reply remote c = .quit) : c = .quit := by
  cases c with
  | quit => rfl
  | _ => cases h

theorem answer_of_reply {remote line t : Text} (hnewline : '\n' ∉ line) {c : Command}
    (hline : Command.parseLine line = .ok (some c)) {x : Standing}
    (ht : x.reply remote c = .text t) : Answer remote line t := by
  have hargument : ∀ argument, c.argument? = some argument → '\n' ∉ argument :=
    fun argument hsome hmem => hnewline (argument_subset hline hsome hmem)
  cases c with
  | connect =>
    obtain rfl := Reply.text.inj ht
    exact .of_line hline (Or.inl rfl) _
  | disconnect =>
    obtain rfl := Reply.text.inj ht
    exact .of_line hline (Or.inr (Or.inl rfl)) _
  | status =>
    obtain rfl := Reply.text.inj ht
    exact .of_line hline (Or.inr (Or.inr (Or.inr rfl))) _
  | start =>
    rw [Standing.reply] at ht
    obtain rfl := Reply.text.inj ht
    split
    · apply Answer.of_not_mem
      · simp [IsHelp, hline]
      · exact newline_not_mem_errorText (StartError.visible_message _)
    · exact .of_line hline (Or.inr (Or.inr (Or.inl rfl))) _
  | lookup name =>
    obtain rfl := Reply.text.inj ht
    apply Answer.of_not_mem
    · simp [IsHelp, hline]
    · exact newline_not_mem_lookupText (hargument name rfl)
  | parse id =>
    obtain rfl := Reply.text.inj ht
    apply Answer.of_not_mem
    · simp [IsHelp, hline]
    · exact newline_not_mem_parseText (hargument id rfl)
  | help =>
    obtain rfl := Reply.text.inj ht
    exact ⟨fun _ => rfl, fun hnot => absurd hline hnot⟩
  | quit => cases ht

/-! ## All lines -/

/-- The lines that are answered: those that are not all white space, up to the first that asks to
quit. -/
def answeredLines (lines : List Text) : List Text :=
  (lines.takeWhile fun line => ¬ IsQuit line).filter fun line => ¬ Text.Blanks line

theorem answeredLines_of_quit {line : Text} (h : IsQuit line) (rest : List Text) :
    answeredLines (line :: rest) = [] := by
  simp [answeredLines, h]

theorem answeredLines_of_blanks {line : Text} (h : Command.parseLine line = .ok none)
    (rest : List Text) : answeredLines (line :: rest) = answeredLines rest := by
  have hquit : ¬ IsQuit line := by simp [IsQuit, h]
  simp [answeredLines, hquit, parseLine_eq_none_iff.1 h]

theorem answeredLines_of_answered {line : Text} (hquit : ¬ IsQuit line)
    (h : Command.parseLine line ≠ .ok none) (rest : List Text) :
    answeredLines (line :: rest) = line :: answeredLines rest := by
  rw [ne_eq, parseLine_eq_none_iff] at h
  simp [answeredLines, hquit, h]

/-- Each of the lines that are answered has its reply. -/
theorem exists_replies {k : DeviceKey} {s : Site} {remote : Text} {x : Standing}
    (h : Shows s k remote x) {lines : List Text} (hlines : ∀ line ∈ lines, '\n' ∉ line) :
    ∃ out, replies k s lines = .ok out ∧
      List.Forall₂ (Answer remote) (answeredLines lines) out := by
  induction lines generalizing s x with
  | nil => exact ⟨[], rfl, .nil⟩
  | cons line rest ih =>
    obtain ⟨hline, hrest⟩ := List.forall_mem_cons.1 hlines
    by_cases hquit : IsQuit line
    · rw [answeredLines_of_quit hquit]
      exact ⟨[], Session.replies_of_quit hquit k s rest, .nil⟩
    cases hparse : Command.parseLine line with
    | error e =>
      obtain ⟨out, hout, hall⟩ := ih h hrest
      refine ⟨errorText e.message :: out, ?_, ?_⟩
      · simp only [replies, hparse, hout]
        rfl
      · rw [answeredLines_of_answered hquit (by simp [hparse])]
        exact .cons (answer_of_error hparse) hall
    | ok parsed =>
      cases parsed with
      | none =>
        obtain ⟨out, hout, hall⟩ := ih h hrest
        rw [answeredLines_of_blanks hparse]
        refine ⟨out, ?_, hall⟩
        simp only [replies, hparse, hout]
      | some c =>
        obtain ⟨hresult, hafter⟩ := execute_of_shows h c
        obtain ⟨out, hout, hall⟩ := ih hafter hrest
        cases hreply : x.reply remote c with
        | quit =>
          obtain rfl := eq_quit_of_reply hreply
          exact absurd hparse hquit
        | text t =>
          refine ⟨t :: out, ?_, ?_⟩
          · simp only [replies, hparse, hresult, hreply, hout]
            rfl
          · rw [answeredLines_of_answered hquit (by simp [hparse])]
            exact .cons (answer_of_reply hline hparse hreply) hall

end Console

end DeviceTwin
