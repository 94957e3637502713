import DeviceTwin.Channel

/-!
# A channel with one sender is a queue

A channel parks a sender that has left more events waiting than the buffer holds, and refuses the
events of parked senders.  If only one sender is used, the two are the same thing: the sender is
parked exactly while one event more than the buffer waits (`Channel.Paced`).  So the channel is a
queue for that many events, which discards what comes while it is full.  `Queue.serve` is that
queue, and `Channel.Serves` compares a channel with it.
-/

namespace DeviceTwin

/-! ## Bounded queues -/

namespace Queue

/-- What is done with a queue. -/
inductive Use where
  | put (event : Status)
  /-- Takes what waits, at most `limit` events if there is a limit. -/
  | take (limit : Option Nat)
  deriving DecidableEq, Repr

/-- What comes of a use. -/
inductive Reply where
  | offered (delivery : Channel.Delivery)
  | taken (events : List Status)
  deriving DecidableEq, Repr

/-- What waits in a queue after it has been used, and what comes of the uses.  Events that are put
into a full queue are discarded. -/
def serve (capacity : Nat) : List Status → List Use → List Status × List Reply
  | waiting, [] => (waiting, [])
  | waiting, .put event :: uses =>
    if waiting.length < capacity then
      let (rest, replies) := serve capacity (waiting ++ [event]) uses
      (rest, .offered .queued :: replies)
    else
      let (rest, replies) := serve capacity waiting uses
      (rest, .offered .full :: replies)
  | waiting, .take limit :: uses =>
    let n := limit.getD waiting.length
    let (rest, replies) := serve capacity (waiting.drop n) uses
    (rest, .taken (waiting.take n) :: replies)

/-- The events that are put into a queue. -/
def puts (uses : List Use) : List Status :=
  uses.filterMap fun | .put event => some event | .take _ => none

/-- The events that are taken from a queue. -/
def got (replies : List Reply) : List Status :=
  replies.flatMap fun | .taken events => events | .offered _ => []

variable {capacity : Nat} {waiting : List Status} {uses : List Use}

@[simp] theorem puts_nil : puts [] = [] := rfl

@[simp] theorem puts_cons_put (event : Status) (uses : List Use) :
    puts (.put event :: uses) = event :: puts uses := rfl

@[simp] theorem puts_cons_take (limit : Option Nat) (uses : List Use) :
    puts (.take limit :: uses) = puts uses := rfl

@[simp] theorem puts_append (first second : List Use) :
    puts (first ++ second) = puts first ++ puts second :=
  List.filterMap_append

@[simp] theorem puts_map_put (events : List Status) : puts (events.map .put) = events := by
  induction events with
  | nil => rfl
  | cons event events ih => rw [List.map_cons, puts_cons_put, ih]

@[simp] theorem got_nil : got [] = [] := rfl

@[simp] theorem got_cons_offered (delivery : Channel.Delivery) (replies : List Reply) :
    got (.offered delivery :: replies) = got replies := rfl

@[simp] theorem got_cons_taken (events : List Status) (replies : List Reply) :
    got (.taken events :: replies) = events ++ got replies := rfl

@[simp] theorem got_append (first second : List Reply) :
    got (first ++ second) = got first ++ got second :=
  List.flatMap_append

theorem serve_append (waiting : List Status) (first second : List Use) :
    serve capacity waiting (first ++ second) =
      ((serve capacity (serve capacity waiting first).1 second).1,
        (serve capacity waiting first).2 ++
          (serve capacity (serve capacity waiting first).1 second).2) := by
  induction first generalizing waiting with
  | nil => rfl
  | cons use first ih =>
    cases use with
    | put event =>
      by_cases hroom : waiting.length < capacity <;> simp [serve, hroom, ih]
    | take limit => simp [serve, ih]

/-- What is taken from a queue has been put into it, in the same order. -/
theorem got_append_sublist (capacity : Nat) (waiting : List Status) (uses : List Use) :
    (got (serve capacity waiting uses).2 ++ (serve capacity waiting uses).1).Sublist
      (waiting ++ puts uses) := by
  induction uses generalizing waiting with
  | nil => simp [serve]
  | cons use uses ih =>
    cases use with
    | put event =>
      by_cases hroom : waiting.length < capacity
      · simpa [serve, hroom] using ih (waiting ++ [event])
      · have hrest : (waiting ++ puts uses).Sublist (waiting ++ event :: puts uses) :=
          (List.sublist_cons_self _ _).append_left _
        simpa [serve, hroom] using (ih waiting).trans hrest
    | take limit =>
      have htaken := (ih (waiting.drop (limit.getD waiting.length))).append_left
        (waiting.take (limit.getD waiting.length))
      simpa [serve, ← List.append_assoc] using htaken

/-- As long as there is room for everything that is put into a queue, nothing is lost. -/
theorem got_append_eq (h : waiting.length + (puts uses).length ≤ capacity) :
    got (serve capacity waiting uses).2 ++ (serve capacity waiting uses).1 =
      waiting ++ puts uses := by
  induction uses generalizing waiting with
  | nil => simp [serve]
  | cons use uses ih =>
    cases use with
    | put event =>
      rw [puts_cons_put, List.length_cons] at h
      have hroom : waiting.length < capacity := by omega
      have hput : (waiting ++ [event]).length + (puts uses).length ≤ capacity := by simp; omega
      simpa [serve, hroom] using ih hput
    | take limit =>
      have hlength : (waiting.drop (limit.getD waiting.length)).length ≤ waiting.length :=
        (List.drop_sublist _ _).length_le
      have hrest := ih (Nat.le_trans (Nat.add_le_add_right hlength _) h)
      simp only [serve, got_cons_taken, puts_cons_take, List.append_assoc, hrest]
      rw [← List.append_assoc, List.take_append_drop]

end Queue

namespace Channel

variable {c c' : Channel} {m : Nat}

/-! ## What a sender can see of a channel -/

/-- A channel without what is known of its senders. -/
def bare (c : Channel) : Channel := { c with senders := [], issued := 0 }

@[simp] theorem bare_addSender (c : Channel) : c.addSender.1.bare = c.bare := rfl

@[simp] theorem bare_dropSender (c : Channel) (sender : Nat) :
    (c.dropSender sender).bare = c.bare := rfl

theorem eq_of_bare (h : c'.bare = c.bare) : c'.buffer = c.buffer ∧ c'.waiting = c.waiting ∧
    c'.accepting = c.accepting ∧ c'.parked = c.parked := by
  simpa [bare] using h

/-- The sender is parked exactly while it cannot go on. -/
structure Paced (c : Channel) (m : Nat) : Prop where
  bounded : c.waiting.length ≤ c.buffer + 1
  parked : c.parked = if c.accepting = true ∧ c.buffer < c.waiting.length then [m] else []

theorem Paced.of_bare (h : c.Paced m) (hbare : c'.bare = c.bare) : c'.Paced m := by
  obtain ⟨hbuffer, hwaiting, haccepting, hparked⟩ := eq_of_bare hbare
  constructor
  · rw [hbuffer, hwaiting]
    exact h.bounded
  · rw [hbuffer, hwaiting, haccepting, hparked]
    exact h.parked

/-- As long as nothing waits, nobody is parked. -/
theorem Paced.of_waiting_eq_nil (h : c.Paced m) (hwaiting : c.waiting = []) (other : Nat) :
    c.Paced other := by
  constructor
  · exact h.bounded
  · rw [h.parked]
    simp [hwaiting]

/-! ## Sending -/

theorem Paced.send_of_closed (h : c.Paced m) (hclosed : c.accepting = false) (event : Status) :
    c.send m event = (c, .closed) := by
  have hparked : c.parked = [] := by simpa [hclosed] using h.parked
  simp [send, hparked, hclosed]

theorem Paced.send_of_full (h : c.Paced m) (hopen : c.accepting = true)
    (hfull : c.buffer < c.waiting.length) (event : Status) : c.send m event = (c, .full) := by
  have hparked : c.parked = [m] := by simpa [hopen, hfull] using h.parked
  simp [send, hparked]

theorem Paced.send_of_room (h : c.Paced m) (hopen : c.accepting = true)
    (hroom : c.waiting.length ≤ c.buffer) (event : Status) :
    c.send m event =
      ({ c with
          waiting := c.waiting ++ [event]
          parked := if c.buffer < (c.waiting ++ [event]).length then [m] else [] },
        .queued) := by
  have hparked : c.parked = [] := by simpa [Nat.not_lt.2 hroom] using h.parked
  simp [send, hparked, hopen]

/-- The channel after an event has been handed to a sender, which is given up if the channel is
closed. -/
def offered (c : Channel) (m : Nat) (event : Status) : Channel :=
  if (c.send m event).2 = .closed then (c.send m event).1.dropSender m else (c.send m event).1

theorem Paced.offered (h : c.Paced m) (event : Status) : (c.offered m event).Paced m := by
  by_cases hopen : c.accepting = true
  · rcases Nat.lt_or_ge c.buffer c.waiting.length with hfull | hroom
    · simpa [Channel.offered, h.send_of_full hopen hfull] using h
    · rw [Channel.offered, h.send_of_room hopen hroom, if_neg (by simp)]
      constructor
      · simpa using hroom
      · simp [hopen]
  · have hclosed : c.accepting = false := by simpa using hopen
    rw [Channel.offered, h.send_of_closed hclosed, if_pos rfl]
    exact h.of_bare (bare_dropSender c m)

theorem Paced.accepting_of_closed (h : c.Paced m) {event : Status}
    (hclosed : (c.send m event).2 = .closed) : (c.offered m event).accepting = false := by
  by_cases hopen : c.accepting = true
  · rcases Nat.lt_or_ge c.buffer c.waiting.length with hfull | hroom
    · simp [h.send_of_full hopen hfull] at hclosed
    · simp [h.send_of_room hopen hroom] at hclosed
  · have hnot : c.accepting = false := by simpa using hopen
    simpa [Channel.offered, h.send_of_closed hnot, dropSender] using hnot

/-! ## Receiving -/

/-- Why receiving stops when nothing waits. -/
def ending (c : Channel) : Ending :=
  if c.accepting && !c.senders.isEmpty then .empty else .closed

theorem receiveUpTo_eq (n : Nat) (c : Channel) :
    c.receiveUpTo n =
      ({ c with
          waiting := c.waiting.drop n
          parked := c.parked.drop (min n c.waiting.length) },
        c.waiting.take n, if n ≤ c.waiting.length then .limit else c.ending) := by
  induction n generalizing c with
  | zero => simp [receiveUpTo]
  | succ n ih =>
    obtain ⟨buffer, waiting, accepting, parked, senders, issued⟩ := c
    cases waiting with
    | nil =>
      by_cases hempty : (accepting && !senders.isEmpty) = true <;>
        simp [receiveUpTo, receive, ending, hempty]
    | cons event waiting =>
      simp only [receiveUpTo, receive, ih]
      simp [ending, Nat.succ_min_succ]

theorem receiveAll_eq (c : Channel) :
    c.receiveAll =
      ({ c with waiting := [], parked := c.parked.drop c.waiting.length }, c.waiting,
        c.ending) := by
  rw [receiveAll, receiveUpTo_eq, if_neg (Nat.not_succ_le_self _)]
  simp [List.take_of_length_le]

/-- Takes what waits, at most `limit` events if there is a limit. -/
def withdraw (c : Channel) : Option Nat → Channel × List Status × Ending
  | some n => c.receiveUpTo n
  | none => c.receiveAll

theorem withdraw_eq (c : Channel) (limit : Option Nat) :
    c.withdraw limit =
      ({ c with
          waiting := c.waiting.drop (limit.getD c.waiting.length)
          parked := c.parked.drop (min (limit.getD c.waiting.length) c.waiting.length) },
        c.waiting.take (limit.getD c.waiting.length),
        if limit.any (· ≤ c.waiting.length) then .limit else c.ending) := by
  cases limit with
  | none => simp [withdraw, receiveAll_eq]
  | some n => simp [withdraw, receiveUpTo_eq]

theorem Paced.withdraw (h : c.Paced m) (limit : Option Nat) :
    (c.withdraw limit).1.Paced m := by
  have hbounded := h.bounded
  have hparked := h.parked
  rw [withdraw_eq]
  generalize limit.getD c.waiting.length = n
  constructor
  · simp only [List.length_drop]
    omega
  · simp only [List.length_drop, hparked]
    by_cases hfull : c.accepting = true ∧ c.buffer < c.waiting.length
    · cases n with
      | zero => simp [hfull]
      | succ n =>
        have hrest : ¬ (c.accepting = true ∧ c.buffer < c.waiting.length - (n + 1)) :=
          fun h => absurd h.2 (by omega)
        have hmin : min (n + 1) c.waiting.length = min n (c.waiting.length - 1) + 1 := by omega
        rw [if_pos hfull, if_neg hrest, hmin, List.drop_succ_cons, List.drop_nil]
    · have hrest : ¬ (c.accepting = true ∧ c.buffer < c.waiting.length - n) :=
        fun h => hfull ⟨h.1, Nat.lt_of_lt_of_le h.2 (Nat.sub_le _ _)⟩
      rw [if_neg hfull, if_neg hrest, List.drop_nil]

theorem Paced.close (h : c.Paced m) : c.close.Paced m where
  bounded := h.bounded
  parked := by simp [Channel.close]

theorem paced_dropReceiver (c : Channel) (m : Nat) : c.dropReceiver.Paced m where
  bounded := Nat.zero_le _
  parked := by simp [dropReceiver, Channel.close]

/-! ## Channels and queues

A channel that does not exist yet is open, and nothing waits in it.
-/

/-- What waits in a channel. -/
def content (o : Option Channel) : List Status := o.elim [] waiting

/-- A channel with a buffer is open. -/
def IsOpen (buffer : Nat) (o : Option Channel) : Prop :=
  ∀ c, o = some c → c.buffer = buffer ∧ c.accepting = true

/-- A channel takes no more new events. -/
def IsClosed (o : Option Channel) : Prop := ∃ c, o = some c ∧ c.accepting = false

/-- A channel becomes what a queue becomes that is used in the same way, and so do the replies.
Once it is closed no event comes in, and those that wait stay until they are taken, if the receiver
is kept. -/
structure Serves (kept : Prop) (o : Option Channel) (uses : List Queue.Use)
    (replies : List Queue.Reply) (o' : Option Channel) : Prop where
  opened : ∀ {buffer}, IsOpen buffer o' →
    IsOpen buffer o ∧ (content o', replies) = Queue.serve (buffer + 1) (content o) uses
  closed : IsClosed o → IsClosed o' ∧ Queue.got replies ++ content o' <+: content o ∧
    (kept → Queue.got replies ++ content o' = content o)
  within : (Queue.got replies ++ content o').Sublist (content o ++ Queue.puts uses)

variable {kept kept' : Prop} {o o' o'' : Option Channel} {uses uses' : List Queue.Use}
  {replies replies' : List Queue.Reply}

theorem Serves.mono (h : Serves kept o uses replies o')
    (hkept : IsClosed o → kept' → kept) : Serves kept' o uses replies o' where
  opened := h.opened
  closed hclosed := by
    obtain ⟨hclosed', hprefix, heq⟩ := h.closed hclosed
    exact ⟨hclosed', hprefix, fun hk => heq (hkept hclosed hk)⟩
  within := h.within

theorem Serves.always (h : Serves True o uses replies o') : Serves kept o uses replies o' :=
  h.mono fun _ _ => trivial

/-- One thing is done with a channel after the other. -/
theorem Serves.trans (h : Serves kept o uses replies o')
    (h' : Serves kept' o' uses' replies' o'') :
    Serves (kept ∧ kept') o (uses ++ uses') (replies ++ replies') o'' where
  opened := by
    intro buffer hopen
    obtain ⟨hopen', heq'⟩ := h'.opened hopen
    obtain ⟨hopen, heq⟩ := h.opened hopen'
    obtain ⟨hcontent, hreplies⟩ := Prod.mk.inj heq
    refine ⟨hopen, ?_⟩
    rw [Queue.serve_append, ← hcontent, ← heq', ← hreplies]
  closed := by
    intro hclosed
    obtain ⟨hclosed', hprefix, heq⟩ := h.closed hclosed
    obtain ⟨hclosed'', hprefix', heq'⟩ := h'.closed hclosed'
    rw [Queue.got_append, List.append_assoc]
    refine ⟨hclosed'', ?_, ?_⟩
    · exact ((List.prefix_append_right_inj _).2 hprefix').trans hprefix
    · rintro ⟨hk, hk'⟩
      rw [heq' hk', heq hk]
  within := by
    have hlater := h'.within.append_left (Queue.got replies)
    have hsooner := h.within.append_right (Queue.puts uses')
    rw [← List.append_assoc] at hlater
    rw [Queue.got_append, Queue.puts_append, ← List.append_assoc (content o)]
    exact (hlater.trans (by rwa [← List.append_assoc]))

/-- What the senders of a channel are makes no difference. -/
theorem serves_of_bare (h : o'.map bare = o.map bare) : Serves True o [] [] o' := by
  cases o with
  | none =>
    obtain rfl : o' = none := by simpa using h
    exact ⟨fun hopen => ⟨hopen, rfl⟩, fun hclosed => ⟨hclosed, by simp [content]⟩, by simp⟩
  | some c =>
    obtain ⟨c', rfl, hbare⟩ := Option.map_eq_some_iff.1 h
    obtain ⟨hbuffer, hwaiting, haccepting, -⟩ := eq_of_bare hbare
    refine ⟨?_, ?_, by simp [content, hwaiting]⟩
    · intro buffer hopen
      refine ⟨?_, by simp [content, hwaiting, Queue.serve]⟩
      intro x hx
      obtain rfl := Option.some.inj hx
      rw [← hbuffer, ← haccepting]
      exact hopen c' rfl
    · rintro ⟨x, hx, hclosed⟩
      obtain rfl := Option.some.inj hx
      exact ⟨⟨c', rfl, haccepting.trans hclosed⟩, by simp [content, hwaiting]⟩

theorem serves_refl : Serves True o [] [] o := serves_of_bare rfl

/-- A channel is made. -/
theorem serves_of_new (hnew : c.waiting = []) : Serves True none [] [] (some c) where
  opened := by
    intro buffer _
    exact ⟨nofun, by simp [content, hnew, Queue.serve]⟩
  closed := by
    rintro ⟨x, hx, -⟩
    cases hx
  within := by simp [content, hnew]

theorem isOpen_some {buffer : Nat} :
    IsOpen buffer (some c) ↔ c.buffer = buffer ∧ c.accepting = true := by
  simp [IsOpen]

theorem isClosed_some : IsClosed (some c) ↔ c.accepting = false := by
  simp [IsClosed]

theorem Paced.serves_offered (h : c.Paced m) (event : Status) :
    Serves True (some c) [.put event] [.offered (c.send m event).2]
      (some (c.offered m event)) := by
  by_cases hopen : c.accepting = true
  · have hopened : ((c.offered m event).waiting, [Queue.Reply.offered (c.send m event).2]) =
        Queue.serve (c.buffer + 1) c.waiting [.put event] ∧
          (c.offered m event).buffer = c.buffer := by
      rcases Nat.lt_or_ge c.buffer c.waiting.length with hfull | hroom
      · have hnot : ¬ c.waiting.length < c.buffer + 1 := by omega
        simp [Channel.offered, h.send_of_full hopen hfull, Queue.serve, hnot]
      · have hlt : c.waiting.length < c.buffer + 1 := by omega
        simp [Channel.offered, h.send_of_room hopen hroom, Queue.serve, hlt]
    obtain ⟨hserve, hbuffer⟩ := hopened
    refine ⟨?_, ?_, ?_⟩
    · intro buffer hopen'
      rw [isOpen_some, hbuffer] at hopen'
      obtain ⟨rfl, -⟩ := hopen'
      exact ⟨isOpen_some.2 ⟨rfl, hopen⟩, hserve⟩
    · intro hclosed
      simp [isClosed_some.1 hclosed] at hopen
    · have hsublist := Queue.got_append_sublist (c.buffer + 1) c.waiting [.put event]
      rwa [← hserve] at hsublist
  · have hclosed : c.accepting = false := by simpa using hopen
    have hsame : c.offered m event = c.dropSender m := by
      rw [Channel.offered, h.send_of_closed hclosed, if_pos rfl]
    rw [h.send_of_closed hclosed, hsame]
    refine ⟨?_, ?_, by simp [content, dropSender]⟩
    · intro buffer hopen'
      simp [isOpen_some, dropSender, hclosed] at hopen'
    · intro _
      exact ⟨isClosed_some.2 hclosed, by simp [content, dropSender]⟩

theorem serves_withdraw (c : Channel) (limit : Option Nat) :
    Serves True (some c) [.take limit] [.taken (c.withdraw limit).2.1]
      (some (c.withdraw limit).1) := by
  rw [withdraw_eq]
  refine ⟨?_, ?_, ?_⟩
  · intro buffer hopen
    rw [isOpen_some] at hopen ⊢
    exact ⟨hopen, rfl⟩
  · intro hclosed
    rw [isClosed_some] at hclosed ⊢
    exact ⟨hclosed, by simp [content]⟩
  · simp [content]

/-- Nothing comes into a closed channel. -/
theorem serves_put_of_closed (hclosed : c.accepting = false) (events : List Status) :
    Serves True (some c) (events.map .put) [] (some c) where
  opened := by
    intro buffer hopen
    simp [isOpen_some, hclosed] at hopen
  closed hclosed := ⟨hclosed, by simp⟩
  within := by simp

/-- A channel is closed, or its receiver is given up. -/
theorem serves_of_closed (hclosed : c'.accepting = false)
    (hwaiting : c'.waiting = c.waiting ∨ c'.waiting = []) :
    Serves (c'.waiting = c.waiting) (some c) [] [] (some c') where
  opened := by
    intro buffer hopen
    simp [isOpen_some, hclosed] at hopen
  closed := by
    intro _
    refine ⟨isClosed_some.2 hclosed, ?_, fun hsame => hsame⟩
    rcases hwaiting with hsame | hnil
    · simp [content, hsame]
    · simp [content, hnil]
  within := by
    rcases hwaiting with hsame | hnil
    · simp [content, hsame]
    · simp [content, hnil]

end Channel

end DeviceTwin
