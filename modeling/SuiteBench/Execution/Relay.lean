import SuiteBench.Execution.Executor

/-!
# Execution.Relay — the tasks that bring the output of a tool to its log

Each stream of a tool has a task that reads it and sends its lines over a channel; a third task takes
them from there and writes the log.  The executor sends its own line over the same channel, which
closes when nobody is left who could send.  The tasks take turns in any order: what one of them does
next is an action, and a schedule is a list of actions.
-/

namespace SuiteBench

/-- How far the reading of a stream has come. -/
inductive ReaderStatus where
  | reading
  /-- The end of the stream was seen. -/
  | ended
  /-- The reading has stopped before the end, as it failed or was given up. -/
  | stopped
  deriving DecidableEq, Repr

/-- A stream of the tool and the task that reads it. -/
structure LineReader where
  /-- The bytes that have not arrived yet. -/
  coming : List UInt8
  /-- The bytes that have arrived but were not read yet. -/
  arrived : List UInt8
  /-- The bytes of the line that is being read, the last first. -/
  line : List UInt8
  status : ReaderStatus
  /-- Whether the executor has asked the task to stop. -/
  givenUp : Bool
  deriving DecidableEq, Repr

namespace LineReader

/-- A stream of some bytes, of which none has arrived. -/
def ofBytes (bytes : List UInt8) : LineReader := ⟨bytes, [], [], .reading, false⟩

/-- Whether the line ends with its line feed. -/
def isWhole (r : LineReader) : Bool := r.line.head? == some 10

/-- Whether nothing is left to be read. -/
def atEnd (r : LineReader) : Bool := r.arrived.isEmpty && r.coming.isEmpty

/-- More bytes arrive. -/
def arrive? (r : LineReader) (n : Nat) : Option LineReader :=
  if 0 < n && n ≤ r.coming.length then
    some { r with coming := r.coming.drop n, arrived := r.arrived ++ r.coming.take n }
  else none

/-- One byte is read into the line. -/
def read? (r : LineReader) : Option LineReader :=
  match r.status, r.isWhole, r.arrived with
  | .reading, false, b :: rest => some { r with arrived := rest, line := b :: r.line }
  | _, _, _ => none

/-- The line is sent, which is whole or the last of its stream. -/
def send? (r : LineReader) : Option (List Char × LineReader) :=
  if r.status = .reading && !r.line.isEmpty && (r.isWhole || r.atEnd) then
    some (Capture.lineText r.line.reverse, { r with line := [] })
  else none

/-- The end of the stream is seen. -/
def finish? (r : LineReader) : Option LineReader :=
  if r.status = .reading && r.line.isEmpty && r.atEnd then some { r with status := .ended } else none

/-- Reading fails where the task waits for bytes, and the task stops. -/
def fail? (r : LineReader) : Option LineReader :=
  if r.status = .reading && !r.isWhole then some { r with status := .stopped } else none

/-- The task stops there too after it was asked to. -/
def stop? (r : LineReader) : Option LineReader := if r.givenUp then r.fail? else none

end LineReader

/-- A line on its way to the log with the stream it comes from; the executor's own come from none. -/
structure LogMessage where
  origin : Option OutputStream
  text : List Char
  deriving DecidableEq, Repr

/-- What the writing task does. -/
inductive WriterState where
  | waiting
  /-- It has taken a line from the channel. -/
  | writing (m : LogMessage)
  /-- It has written the text of a line, but no line feed yet. -/
  | ending (m : LogMessage)
  | closed
  deriving DecidableEq, Repr

/-- How far the executor has come. -/
inductive RunPhase where
  | watching
  /-- It waits for the readers that are left, for one after the other. -/
  | draining (e : RunEnding) (left : List OutputStream)
  /-- It cleans up and may still send. -/
  | cleaning (e : RunEnding)
  /-- It has let go of the channel and waits for the writer. -/
  | closing (e : RunEnding)
  | finished (e : RunEnding)
  deriving DecidableEq, Repr

/-- The tasks around the log of a run, with the lines in flight and what the log holds. -/
structure Relay where
  out : LineReader
  err : LineReader
  queue : List LogMessage
  writer : WriterState
  file : ByteArray
  phase : RunPhase

/-- What a task does next. -/
inductive RelayAction where
  | arrive (s : OutputStream) (n : Nat)
  | read (s : OutputStream)
  | send (s : OutputStream)
  | finish (s : OutputStream)
  | fail (s : OutputStream)
  | stop (s : OutputStream)
  /-- The executor sees how the run ends. -/
  | notice (e : RunEnding)
  /-- The reader that the executor waits for is done. -/
  | joined
  /-- The executor asks the reader that it waits for to stop. -/
  | giveUp
  /-- The executor has waited for all readers. -/
  | settle
  | release
  | receive
  | writeText
  | writeFeed
  | close
  | conclude
  deriving DecidableEq, Repr

namespace Relay

/-- The tasks of a tool that writes some bytes to its streams. -/
def start (bytes : OutputStream → List UInt8) : Relay :=
  ⟨.ofBytes (bytes .out), .ofBytes (bytes .err), [], .waiting, .empty, .watching⟩

/-- The reader of a stream. -/
def reader (r : Relay) : OutputStream → LineReader
  | .out => r.out
  | .err => r.err

/-- The relay with another reader of a stream. -/
def setReader (r : Relay) (rd : LineReader) : OutputStream → Relay
  | .out => { r with out := rd }
  | .err => { r with err := rd }

/-- The relay with another message in its channel. -/
def push (r : Relay) (m : LogMessage) : Relay := { r with queue := r.queue ++ [m] }

/-- The executor's own line about a run that ended in some way, which it sends when no reader is left
to wait for. -/
def annotate (r : Relay) (note : List Char) : RunEnding → Relay
  | .deadline => r.push ⟨none, note⟩
  | _ => r

/-- The relay after an action, if the action is possible; `note` is the executor's own line. -/
def step? (note : List Char) (r : Relay) : RelayAction → Option Relay
  | .arrive s n => ((r.reader s).arrive? n).map (r.setReader · s)
  | .read s => (r.reader s).read?.map (r.setReader · s)
  | .send s => (r.reader s).send?.map fun (text, rd) => (r.setReader rd s).push ⟨some s, text⟩
  | .finish s => (r.reader s).finish?.map (r.setReader · s)
  | .fail s => (r.reader s).fail?.map (r.setReader · s)
  | .stop s => (r.reader s).stop?.map (r.setReader · s)
  | .notice e =>
    match r.phase with
    | .watching => some { r with phase := .draining e [.out, .err] }
    | _ => none
  | .joined =>
    match r.phase with
    | .draining e (s :: left) =>
      if (r.reader s).status = .reading then none else some { r with phase := .draining e left }
    | _ => none
  | .giveUp =>
    match r.phase with
    | .draining e (s :: left) =>
      some { r.setReader { r.reader s with givenUp := true } s with phase := .draining e left }
    | _ => none
  | .settle =>
    match r.phase with
    | .draining e [] => some { r.annotate note e with phase := .cleaning e }
    | _ => none
  | .release =>
    match r.phase with
    | .cleaning e => some { r with phase := .closing e }
    | _ => none
  | .receive =>
    match r.writer, r.queue with
    | .waiting, m :: rest => some { r with writer := .writing m, queue := rest }
    | _, _ => none
  | .writeText =>
    match r.writer with
    | .writing m => some { r with writer := .ending m, file := r.file ++ (String.ofList m.text).toUTF8 }
    | _ => none
  | .writeFeed =>
    match r.writer with
    | .ending _ => some { r with writer := .waiting, file := r.file ++ "\n".toUTF8 }
    | _ => none
  | .close =>
    match r.writer, r.queue, r.phase with
    | .waiting, [], .closing _ =>
      if r.out.status = .reading || r.err.status = .reading then none
      else some { r with writer := .closed }
    | _, _, _ => none
  | .conclude =>
    match r.writer, r.phase with
    | .closed, .closing e => some { r with phase := .finished e }
    | _, _ => none

/-- The relay after a schedule, if all of its actions are possible. -/
def run? (note : List Char) (r : Relay) (schedule : List RelayAction) : Option Relay :=
  schedule.foldlM (step? note) r

end Relay

end SuiteBench
