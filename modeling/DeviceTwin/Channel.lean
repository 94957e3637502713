import DeviceTwin.Connection

/-!
# Event channels

A channel carries status changes from any number of senders to one receiver.  Sending never waits.
A sender that leaves more events waiting than the buffer holds is parked; while it is parked its
events are refused as too many.  Every event that is received lets one sender go on, the one that
has been parked longest, even if it has been dropped meanwhile.  A closed channel refuses every
event, lets all parked senders go on, and still delivers what waits.

A sender alone thus gets one event more into the channel than the buffer says.
-/

namespace DeviceTwin

/-- A bounded channel of status changes. -/
structure Channel where
  /-- How many events may wait before a sender is parked. -/
  buffer : Nat
  /-- The events that wait, the oldest first. -/
  waiting : List Status := []
  /-- Whether the receiver still takes new events. -/
  accepting : Bool := true
  /-- The parked senders, the one parked longest first. -/
  parked : List Nat := []
  /-- The senders in use. -/
  senders : List Nat := []
  /-- How many senders there have been. -/
  issued : Nat := 0
  deriving DecidableEq, Repr

namespace Channel

/-- Buffers from this size on are refused. -/
def bufferLimit : Nat := Nat.pow 2 62 - 1

/-- What becomes of an event. -/
inductive Delivery where
  /-- The event waits in the channel. -/
  | queued
  /-- The event is lost, since its sender is parked. -/
  | full
  /-- The event is lost, since the channel is closed. -/
  | closed
  deriving DecidableEq, Repr

/-- What a receiver finds. -/
inductive Received where
  /-- The oldest event. -/
  | event (status : Status)
  /-- Nothing so far. -/
  | empty
  /-- Nothing, and nothing will come. -/
  | closed
  deriving DecidableEq, Repr

/-- A new sender. -/
def addSender (c : Channel) : Channel × Nat :=
  ({ c with senders := c.senders ++ [c.issued], issued := c.issued + 1 }, c.issued)

/-- Gives a sender up; if it is parked, it keeps its place among the parked. -/
def dropSender (c : Channel) (sender : Nat) : Channel :=
  { c with senders := c.senders.erase sender }

/-- Hands an event to a sender. -/
def send (c : Channel) (sender : Nat) (event : Status) : Channel × Delivery :=
  if sender ∈ c.parked then (c, .full)
  else if c.accepting then
    let waiting := c.waiting ++ [event]
    let parked := if c.buffer < waiting.length then c.parked ++ [sender] else c.parked
    ({ c with waiting, parked }, .queued)
  else (c, .closed)

/-- Takes the oldest event, which lets the sender go on that has been parked longest. -/
def receive (c : Channel) : Channel × Received :=
  match c.waiting with
  | event :: waiting => ({ c with waiting, parked := c.parked.tail }, .event event)
  | [] => (c, if c.accepting && !c.senders.isEmpty then .empty else .closed)

/-- Takes no more new events. -/
def close (c : Channel) : Channel := { c with accepting := false, parked := [] }

/-- Gives the receiver up: what waits is lost. -/
def dropReceiver (c : Channel) : Channel := { c.close with waiting := [] }

/-- Why receiving stopped. -/
inductive Ending where
  /-- As many events as asked for have been taken. -/
  | limit
  /-- No event waits. -/
  | empty
  /-- No event waits, and none will come. -/
  | closed
  deriving DecidableEq, Repr

/-- Takes events one after the other, at most `n` of them. -/
def receiveUpTo : Nat → Channel → Channel × List Status × Ending
  | 0, c => (c, [], .limit)
  | n + 1, c =>
    match c.receive with
    | (c, .event e) =>
      let (c, events, ending) := receiveUpTo n c
      (c, e :: events, ending)
    | (c, .empty) => (c, [], .empty)
    | (c, .closed) => (c, [], .closed)

/-- Takes everything that waits. -/
def receiveAll (c : Channel) : Channel × List Status × Ending :=
  receiveUpTo (c.waiting.length + 1) c

end Channel

end DeviceTwin
