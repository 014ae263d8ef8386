import SuiteBench.Execution.World

/-!
# Execution.Coordinator — how the first signal reaches all who wait for it

A signal is put into a cell that is written once, and sent over a channel to the listeners that are
there.  A wait looks into the cell first and asks the channel only if the cell is empty, so its answer
comes from one or the other.  Who does what next is an action, and a schedule is a list of actions.

The channel has senders and receivers, and each receiver is given the values that were sent after it
subscribed, in their order.  What is needed of such channels is a parameter; `buffered` is one kind of
them, which loses the oldest values of a receiver that falls too far behind.
-/

namespace SuiteBench

/-! ### The channel -/

/-- What a receiver is told when it asks for its next value. -/
inductive Reception (α : Type) where
  | value (x : α)
  /-- Some values were lost before the receiver asked for them. -/
  | lagged
  /-- There is no value left and nobody who could send one. -/
  | closed
  /-- There is no value yet. -/
  | pending
  deriving DecidableEq, Repr

/-- A kind of channel. -/
structure Broadcast (α : Type) where
  Channel : Type
  Receiver : Type
  /-- A new channel with one sender and no receivers. -/
  create : Channel
  addSender : Channel → Channel
  dropSender : Channel → Channel
  send : Channel → α → Channel
  subscribe : Channel → Channel × Receiver
  receive : Channel → Receiver → Channel × Reception α
  dropReceiver : Channel → Receiver → Channel

/-- A channel that keeps apart what each receiver has still to be given. -/
structure BufferedChannel (α : Type) where
  senders : Nat
  /-- The receivers in the order in which they subscribed; nothing stands for one that was dropped. -/
  queues : List (Option (List α))
  deriving DecidableEq, Repr

namespace BufferedChannel

variable {α : Type} (c : BufferedChannel α) (r : Nat)

/-- What a receiver has still to be given, if it is there. -/
def unread? : Option (List α) := c.queues[r]?.join

/-- The channel with something else for a receiver. -/
def setUnread (queue : Option (List α)) : BufferedChannel α :=
  { c with queues := c.queues.set r queue }

/-- Every receiver has still to be given a value that is sent. -/
def send (x : α) : BufferedChannel α :=
  { c with queues := c.queues.map (Option.map (· ++ [x])) }

/-- The channel with another receiver, to which nothing was sent. -/
def subscribe : BufferedChannel α := { c with queues := c.queues ++ [some []] }

/-- What a receiver is told if at most `capacity` values are kept for it. -/
def receive (capacity : Nat) : BufferedChannel α × Reception α :=
  match c.unread? r with
  | none => (c, .closed)
  | some [] => (c, if c.senders = 0 then .closed else .pending)
  | some (x :: xs) =>
    if capacity ≤ xs.length then
      (c.setUnread r (some ((x :: xs).drop (xs.length + 1 - capacity))), .lagged)
    else (c.setUnread r (some xs), .value x)

end BufferedChannel

/-- The channels that keep at most `capacity` values for a receiver. -/
def Broadcast.buffered (α : Type) (capacity : Nat) : Broadcast α where
  Channel := BufferedChannel α
  Receiver := Nat
  create := ⟨1, []⟩
  addSender c := { c with senders := c.senders + 1 }
  dropSender c := { c with senders := c.senders - 1 }
  send := .send
  subscribe c := (c.subscribe, c.queues.length)
  receive c r := c.receive r capacity
  dropReceiver c r := c.setUnread r none

/-! ### The cell and those who listen -/

/-- What a listener is doing. -/
inductive ListenerPhase where
  | idle
  /-- A wait has found the cell empty and asks the channel. -/
  | receiving
  /-- A wait has found the channel closed and the cell empty, and never ends. -/
  | parked
  deriving DecidableEq, Repr

/-- One who may wait for a signal. -/
structure Listener (b : Broadcast Signal) where
  receiver : b.Receiver
  phase : ListenerPhase

/-- The cell and the channel of a signal, which all clones of a coordinator share, with those who
listen. -/
structure Coordinator (b : Broadcast Signal) where
  channel : b.Channel
  /-- What was written into the cell. -/
  cell : Option Signal
  /-- How many clones of the coordinator there are. -/
  clones : Nat
  /-- The listeners in the order in which they subscribed; nothing stands for one that was dropped. -/
  listeners : List (Option (Listener b))

/-- What is done next with a coordinator or a listener. -/
inductive ShutdownAction where
  | clone
  /-- A clone of the coordinator is dropped. -/
  | release
  | trigger (x : Signal)
  | subscribe
  /-- A listener begins to wait; an earlier wait that did not end is given up. -/
  | wait (i : Nat)
  /-- The wait of a listener goes on. -/
  | poll (i : Nat)
  /-- A listener is dropped. -/
  | leave (i : Nat)
  deriving DecidableEq, Repr

namespace Coordinator

/-- How many values the channel must be able to keep. -/
def capacity : Nat := 4

/-- A new coordinator. -/
def start (b : Broadcast Signal) : Coordinator b := ⟨b.create, none, 1, []⟩

variable {b : Broadcast Signal} (s : Coordinator b)

/-- The signal that has come. -/
def signal : Option Signal := s.cell

/-- Whether a signal has come. -/
def isShuttingDown : Bool := s.cell.isSome

/-- What the rest of a run sees of a coordinator. -/
def shutdown : Shutdown := ⟨s.cell, []⟩

/-- A signal comes; only the first is written and sent. -/
def trigger (x : Signal) : Coordinator b :=
  match s.cell with
  | none => { s with cell := some x, channel := b.send s.channel x }
  | some _ => s

/-- Another listener. -/
def subscribe : Coordinator b :=
  let added := b.subscribe s.channel
  { s with channel := added.1, listeners := s.listeners ++ [some ⟨added.2, .idle⟩] }

/-- A listener that is there. -/
def listener? (i : Nat) : Option (Listener b) := s.listeners[i]?.join

/-- The coordinator with a listener in another phase. -/
def setPhase (i : Nat) (l : Listener b) (phase : ListenerPhase) : Coordinator b :=
  { s with listeners := s.listeners.set i (some { l with phase }) }

/-- A listener begins to wait. -/
def wait (i : Nat) (l : Listener b) : Option Signal × Coordinator b :=
  match s.cell with
  | some x => (some x, s.setPhase i l .idle)
  | none => (none, s.setPhase i l .receiving)

/-- A listener asks the channel for its next value. -/
def receive (i : Nat) (l : Listener b) : Option Signal × Coordinator b :=
  let told := b.receive s.channel l.receiver
  let s := { s with channel := told.1 }
  match told.2 with
  | .value x => (some x, s.setPhase i l .idle)
  | .lagged | .pending => (none, s)
  | .closed =>
    match s.cell with
    | some x => (some x, s.setPhase i l .idle)
    | none => (none, s.setPhase i l .parked)

/-- A listener is dropped. -/
def leave (i : Nat) (l : Listener b) : Coordinator b :=
  { s with channel := b.dropReceiver s.channel l.receiver, listeners := s.listeners.set i none }

/-- What an action yields and what it leaves, if it is possible. -/
def step? : ShutdownAction → Option (Option Signal × Coordinator b)
  | .clone =>
    if 0 < s.clones then
      some (none, { s with clones := s.clones + 1, channel := b.addSender s.channel })
    else none
  | .release =>
    if 0 < s.clones then
      some (none, { s with clones := s.clones - 1, channel := b.dropSender s.channel })
    else none
  | .trigger x => if 0 < s.clones then some (none, s.trigger x) else none
  | .subscribe => if 0 < s.clones then some (none, s.subscribe) else none
  | .wait i => (s.listener? i).map (s.wait i)
  | .poll i =>
    (s.listener? i).bind fun l =>
      match l.phase with
      | .idle => none
      | .receiving => some (s.receive i l)
      | .parked => some (none, s)
  | .leave i => (s.listener? i).map fun l => (none, s.leave i l)

/-- What a schedule leaves, if all of its actions are possible. -/
def run? (schedule : List ShutdownAction) : Option (Coordinator b) :=
  schedule.foldlM (fun s a => (s.step? a).map (·.2)) s

end Coordinator

end SuiteBench
