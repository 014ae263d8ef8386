/-!
# Csv.Scan — records out of bytes

One pass over the bytes cuts them into records of fields.  A record ends at a line feed, a carriage
return or the two together; blank lines and, where a comment character is set, comment lines belong
to no record.  A record's position is where the scan stood when the record before it had ended.
-/

namespace SuiteBench.Csv

/-- Where a record starts: how many records precede it, its line and its byte. -/
structure Position where
  record : Nat
  line : Nat
  byte : Nat
  deriving DecidableEq, Repr

/-- A record as bytes. -/
structure RawRecord where
  position : Position
  fields : List (List UInt8)
  deriving DecidableEq, Repr

/-- What the scan is in the middle of. -/
inductive Mode where
  /-- Between records. -/
  | recordStart
  /-- After the carriage return that ended a record. -/
  | afterReturn
  | comment
  | fieldStart
  | field
  | quoted
  /-- After a quote inside a quoted field: it ends the field or stands for itself. -/
  | quoteInQuoted
  deriving DecidableEq, Repr

/-- The state of a scan; lists are kept last item first. -/
structure Scan where
  mode : Mode
  current : List UInt8
  fields : List (List UInt8)
  /-- Where the record under way starts. -/
  start : Position
  line : Nat
  byte : Nat
  records : List RawRecord

namespace Scan

/-- Before the first byte; a byte order mark of `skipped` bytes may have been passed over. -/
def initial (skipped : Nat) : Scan := ⟨.recordStart, [], [], ⟨0, 1, 0⟩, 1, skipped, []⟩

/-- Ends the field under way. -/
def endField (s : Scan) : Scan :=
  { s with fields := s.current.reverse :: s.fields, current := [], mode := .fieldStart }

/-- Ends the record under way; the next one starts where the scan stands. -/
def endRecord (s : Scan) (mode : Mode) : Scan :=
  let s := s.endField
  { s with
    records := ⟨s.start, s.fields.reverse⟩ :: s.records
    fields := []
    start := ⟨s.start.record + 1, s.line, s.byte⟩
    mode := mode }

/-- Takes `b` into the field under way. -/
def take (s : Scan) (b : UInt8) (mode : Mode) : Scan :=
  { s with current := b :: s.current, mode := mode }

/-- A byte after text of a field that is not inside quotes. -/
def bare (s : Scan) (b : UInt8) : Scan :=
  if b == 44 then s.endField
  else if b == 10 then s.endRecord .recordStart
  else if b == 13 then s.endRecord .afterReturn
  else s.take b .field

/-- The first byte of a field. -/
def opening (s : Scan) (b : UInt8) : Scan :=
  if b == 34 then { s with mode := .quoted } else s.bare b

/-- A byte between records. -/
def between (comment : Option UInt8) (s : Scan) (b : UInt8) : Scan :=
  if b == 10 || b == 13 then { s with mode := .recordStart }
  else if comment == some b then { s with mode := .comment }
  else s.opening b

/-- The scan after the byte `b`. -/
def step (comment : Option UInt8) (s : Scan) (b : UInt8) : Scan :=
  let s := { s with byte := s.byte + 1, line := if b == 10 then s.line + 1 else s.line }
  match s.mode with
  | .recordStart => s.between comment b
  | .afterReturn => if b == 10 then { s with mode := .recordStart } else s.between comment b
  | .comment => if b == 10 then { s with mode := .recordStart } else s
  | .fieldStart => s.opening b
  | .field => s.bare b
  | .quoted => if b == 34 then { s with mode := .quoteInQuoted } else s.take b .quoted
  | .quoteInQuoted => if b == 34 then s.take b .quoted else s.bare b

/-- The records once the bytes have ended; a record under way ends with them. -/
def finish (s : Scan) : List RawRecord :=
  match s.mode with
  | .recordStart | .afterReturn | .comment => s.records.reverse
  | _ => (s.endRecord .recordStart).records.reverse

end Scan

/-- The records that `bytes` hold; a byte order mark in front is passed over. -/
def scan (comment : Option UInt8) (bytes : List UInt8) : List RawRecord :=
  match bytes with
  | 0xEF :: 0xBB :: 0xBF :: rest => (rest.foldl (Scan.step comment) (.initial 3)).finish
  | bytes => (bytes.foldl (Scan.step comment) (.initial 0)).finish

end SuiteBench.Csv
