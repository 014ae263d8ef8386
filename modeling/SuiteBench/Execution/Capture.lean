import SuiteBench.Text.Utf8

/-!
# Execution.Capture — the log of a run from two streams

Both streams of a tool arrive in pieces.  Each stream is cut into lines on its own, and a line goes
to the log as soon as it is whole; what is left when a stream closes is a line too.
-/

namespace SuiteBench

/-- Where a tool writes. -/
inductive OutputStream where
  | out
  | err
  deriving DecidableEq, Repr

/-- What reaches the harness from a stream. -/
inductive Arrival where
  | piece (stream : OutputStream) (bytes : List UInt8)
  | closed (stream : OutputStream)
  deriving DecidableEq, Repr

/-- The part of a log that is written, and the unfinished line of each stream. -/
structure Capture where
  /-- The written lines, the last first. -/
  written : List (OutputStream × List Char)
  /-- The bytes of the unfinished lines, the last first. -/
  out : List UInt8
  err : List UInt8
  deriving DecidableEq, Repr

namespace Capture

/-- Nothing has arrived yet. -/
def empty : Capture := ⟨[], [], []⟩

/-- The unfinished line of a stream, its last byte first. -/
def pending (c : Capture) : OutputStream → List UInt8
  | .out => c.out
  | .err => c.err

/-- The capture with another unfinished line. -/
def setPending (c : Capture) (bytes : List UInt8) : OutputStream → Capture
  | .out => { c with out := bytes }
  | .err => { c with err := bytes }

/-- The text of a line without the line feeds and carriage returns at its end. -/
def lineText (bytes : List UInt8) : List Char :=
  ((Text.Utf8.lossyChars bytes).reverse.dropWhile fun c => c == '\n' || c == '\r').reverse

/-- One byte of a stream arrives. -/
def byte (c : Capture) (s : OutputStream) (b : UInt8) : Capture :=
  if b = 10 then
    { c.setPending [] s with written := (s, lineText (c.pending s).reverse) :: c.written }
  else c.setPending (b :: c.pending s) s

/-- A stream closes. -/
def close (c : Capture) (s : OutputStream) : Capture :=
  if (c.pending s).isEmpty then c
  else { c.setPending [] s with written := (s, lineText (c.pending s).reverse) :: c.written }

/-- Something arrives. -/
def receive (c : Capture) : Arrival → Capture
  | .piece s bytes => bytes.foldl (fun c b => c.byte s b) c
  | .closed s => c.close s

/-- The lines of the log with their streams, in the order in which they were written. -/
def lines (c : Capture) : List (OutputStream × List Char) := c.written.reverse

/-- The capture of everything that arrives. -/
def of (arrivals : List Arrival) : Capture := arrivals.foldl receive empty

end Capture

/-- The lines of one stream: its bytes cut at the line feeds. -/
def streamLines (bytes : List UInt8) : List (List Char) :=
  let rec cut : List UInt8 → List UInt8 → List (List Char)
    | [], [] => []
    | line, [] => [Capture.lineText line.reverse]
    | line, b :: rest =>
      if b = 10 then Capture.lineText line.reverse :: cut [] rest else cut (b :: line) rest
  cut [] bytes

end SuiteBench
