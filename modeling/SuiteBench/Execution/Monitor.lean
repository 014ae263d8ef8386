import SuiteBench.Decimal.Arithmetic
import SuiteBench.Run.Record

/-!
# Execution.Monitor — CPU and memory over a run

The monitor is a task that takes a sample at every tick of its interval and a last one when it is told
to stop; a probe that fails loses all samples.  The task and the owner of its handle share a thread: who
does what next is an action, and a schedule is a list of actions.  When the clock gets to a tick at
which the owner stops the task, the owner comes first.

A task can wait for the one message of a channel and for the ticks of a clock.  What is needed of such
channels and of what tells the ticks is a parameter; `flag` and `delaying` are kinds of them.
-/

namespace SuiteBench

open Decimal

/-! ### What a task can wait for -/

/-- A kind of channel for one message, of which only the arrival matters. -/
structure Oneshot where
  Channel : Type
  /-- A channel with a sender and a receiver. -/
  create : Channel
  send : Channel → Channel
  dropSender : Channel → Channel
  /-- Whether the receiver has nothing more to wait for. -/
  isReady : Channel → Bool

/-- What has become of a sender. -/
inductive SenderState where
  | held
  /-- Its message was sent. -/
  | sent
  | dropped
  deriving DecidableEq, Repr

/-- The channels that keep what has become of their sender. -/
def Oneshot.flag : Oneshot where
  Channel := SenderState
  create := .held
  send _ := .sent
  dropSender _ := .dropped
  isReady c := c ≠ .held

/-- A kind of tickers; times are in milliseconds. -/
structure Ticker where
  State : Type
  /-- A ticker with its first tick at some time and the others at intervals, if there can be one. -/
  create : (first interval : Nat) → Option State
  /-- The time of the next tick. -/
  due : State → Nat
  interval : State → Nat
  /-- A tick is taken, if there is one by now. -/
  tick? : State → (now : Nat) → Option State

/-- The tickers whose next tick comes an interval after the last one was taken. -/
def Ticker.delaying : Ticker where
  State := Nat × Nat
  create first interval := if interval = 0 then none else some (first, interval)
  due := Prod.fst
  interval := Prod.snd
  tick? t now := if t.1 ≤ now then some (now + t.2, t.2) else none

/-! ### Samples -/

/-- One reading of CPU and memory. -/
structure ResourceSample (α : Type) where
  cpuPercent : α
  memory : α

namespace ResourceSample

variable {α : Type} [Figures α]

/-- The CPU readings of busy samples: finite and above zero. -/
def busy (samples : List (ResourceSample α)) : List α :=
  (samples.map cpuPercent).filter fun x => Figures.isFinite x && Figures.less Figures.zero x

/-- The mean CPU reading of the busy samples, zero if there are none. -/
def cpuAverage (samples : List (ResourceSample α)) : α :=
  match busy samples with
  | [] => Figures.zero
  | xs => mean xs

/-- The memory readings that are finite and not negative. -/
def memoryReadings (samples : List (ResourceSample α)) : List α :=
  (samples.map memory).filter fun x => Figures.isFinite x && !Figures.less x Figures.zero

/-- The greatest memory reading, zero if there are none. -/
def memoryPeak (samples : List (ResourceSample α)) : α :=
  (memoryReadings samples).foldl greatest Figures.zero

end ResourceSample

/-- The summary of the samples of a run, to two places. -/
def ResourceSummary.of (samples : List (ResourceSample Float)) : ResourceSummary :=
  ⟨roundTo (ResourceSample.cpuAverage samples) 2, roundTo (ResourceSample.memoryPeak samples) 2,
    samples.length⟩

/-! ### The sampling task -/

/-- How far a sampling task has come. -/
inductive SamplerStatus (k : Ticker) where
  /-- It has not had a turn yet. -/
  | spawned
  | running (ticks : k.State)
  | finished
  /-- The task has panicked. -/
  | failed
  | cancelled

/-- What the owner of a monitor has done with its handle. -/
inductive HandleState where
  | held
  /-- The task is told to stop, and its samples are waited for. -/
  | stopping
  | dropped
  deriving DecidableEq, Repr

/-- A sampling task with its clock, which stands at zero when the task is spawned. -/
structure Sampler (o : Oneshot) (k : Ticker) (α : Type) where
  now : Nat
  status : SamplerStatus k
  channel : o.Channel
  handle : HandleState
  /-- The samples, the last first. -/
  taken : List α
  /-- How often the probe was called. -/
  calls : Nat

/-- What is done next. -/
inductive SamplerAction where
  /-- The task has a turn. -/
  | turn
  /-- Milliseconds pass. -/
  | wait (ms : Nat)
  /-- The owner tells the task to stop. -/
  | stop
  /-- The owner drops the handle. -/
  | drop
  deriving DecidableEq, Repr

namespace Sampler

variable {o : Oneshot} {k : Ticker} {α : Type} (probe : Nat → Option α) (interval : Nat)

/-- A task that was just spawned. -/
def start (o : Oneshot) (k : Ticker) (α : Type) : Sampler o k α := ⟨0, .spawned, o.create, .held, [], 0⟩

variable (s : Sampler o k α)

/-- The probe is called, and the task goes on unless it fails. -/
def sample (next : SamplerStatus k) : Sampler o k α :=
  match probe s.calls with
  | some x => { s with taken := x :: s.taken, calls := s.calls + 1, status := next }
  | none => { s with calls := s.calls + 1, status := .failed }

/-- A pass of the loop: a stop comes before a tick, and the last sample is taken after it. -/
def pass (ticks : k.State) : Sampler o k α :=
  if o.isReady s.channel then s.sample probe .finished
  else match k.tick? ticks s.now with
    | some ticks => s.sample probe (.running ticks)
    | none => { s with status := .running ticks }

/-- A turn of the task: there is no tick at its start, and a task whose handle was dropped does nothing
more. -/
def turn : Sampler o k α :=
  match s.status, s.handle with
  | .spawned, .dropped | .running _, .dropped => { s with status := .cancelled }
  | .spawned, _ =>
    match k.create (s.now + interval) interval with
    | some ticks => s.pass probe ticks
    | none => { s with status := .failed }
  | .running ticks, _ => s.pass probe ticks
  | .finished, _ | .failed, _ | .cancelled, _ => s

@[simp] theorem now_sample (next : SamplerStatus k) : (s.sample probe next).now = s.now := by
  rw [sample]
  split <;> rfl

@[simp] theorem now_pass (ticks : k.State) : (s.pass probe ticks).now = s.now := by
  rw [pass]
  split
  · exact now_sample probe s _
  · split
    · exact now_sample probe s _
    · rfl

/-- No time passes in a turn. -/
@[simp] theorem now_turn : (s.turn probe interval).now = s.now := by
  rw [turn]
  split
  · rfl
  · rfl
  · split
    · exact now_pass probe s _
    · rfl
  · exact now_pass probe s _
  · rfl
  · rfl
  · rfl

/-- Whether milliseconds can pass: the clock stands still while the task has something to do. -/
def canWait (ms : Nat) : Bool :=
  match s.status with
  | .spawned => false
  | .running ticks =>
    s.handle ≠ .dropped && !o.isReady s.channel && s.now + ms ≤ k.due ticks
  | .finished | .failed | .cancelled => true

/-- The task is told to stop. -/
def stop : Sampler o k α := { s with channel := o.send s.channel, handle := .stopping }

/-- The task is to be cancelled, and its channel loses its sender. -/
def drop : Sampler o k α := { s with channel := o.dropSender s.channel, handle := .dropped }

/-- What an action leaves, if it is possible; the handle can be stopped or dropped once. -/
def step? : SamplerAction → Option (Sampler o k α)
  | .turn => some (s.turn probe interval)
  | .wait ms => if 0 < ms && s.canWait ms then some { s with now := s.now + ms } else none
  | .stop => if s.handle = .held then some s.stop else none
  | .drop => if s.handle = .held then some s.drop else none

/-- What a schedule leaves, if all of its actions are possible. -/
def run? (schedule : List SamplerAction) : Option (Sampler o k α) :=
  schedule.foldlM (fun s a => s.step? probe interval a) s

/-- What waiting for the task gives, once it has ended. -/
def result? : Option (List α) :=
  match s.status with
  | .spawned | .running _ => none
  | .finished => some s.taken.reverse
  | .failed | .cancelled => some []

/-- The task goes on until the clock gets to `time`. -/
def goOn (time : Nat) (s : Sampler o k α) : Sampler o k α :=
  match s.status with
  | .running ticks =>
    if s.now < k.due ticks ∧ k.due ticks < time then
      goOn time ({ s with now := k.due ticks }.turn probe interval)
    else { s with now := time }
  | _ => { s with now := time }
termination_by time - s.now
decreasing_by
  rw [now_turn]
  dsimp only
  omega

end Sampler

/-! ### Monitors -/

namespace Monitor

/-- What a monitor leaves: its samples, and how often it called the probe. -/
structure Outcome (α : Type) where
  samples : List α
  calls : Nat
  deriving DecidableEq, Repr

variable {o : Oneshot} {k : Ticker} {α : Type}

/-- What a handle gives; a monitor that is switched off has a handle without a task. -/
def outcome : Option (Sampler o k α) → Outcome α
  | some s => ⟨s.result?.getD [], s.calls⟩
  | none => ⟨[], 0⟩

/-- The task of a monitor when the clock gets to `time`. -/
def running (o : Oneshot) (k : Ticker) (probe : Nat → Option α) (interval time : Nat) :
    Sampler o k α :=
  ((Sampler.start o k α).turn probe interval).goOn probe interval time

/-- A monitor that runs until `stop` and is then stopped. -/
def stopped (probe : Nat → Option α) (interval stop : Nat) : Outcome α :=
  outcome (some ((running .flag .delaying probe interval stop).stop.turn probe interval))

/-- A monitor whose handle is dropped at `stop`: it takes no further sample and reports none. -/
def dropped (probe : Nat → Option α) (interval stop : Nat) : Outcome α :=
  outcome (some ((running .flag .delaying probe interval stop).drop.turn probe interval))

/-- A monitor that is switched off. -/
def disabled : Outcome α := outcome (none : Option (Sampler .flag .delaying α))

end Monitor

end SuiteBench
