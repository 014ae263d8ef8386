import SuiteBench.Decimal.Natural
import SuiteBench.Text.Lines

/-!
# Moment — points in time

A moment counts seconds from 1970-01-01T00:00:00Z; a leap second is told by a nanosecond count of
10⁹ or more.  It is written as a date and time in UTC with `Z`; reading takes any offset.
-/

namespace SuiteBench

/-- A point in time. -/
structure Moment where
  /-- Seconds since the start of 1970, UTC. -/
  seconds : Int
  /-- Nanoseconds within the second; 10⁹ or more within a leap second. -/
  nanos : Nat
  deriving DecidableEq, Repr

/-- A day of the Gregorian calendar. -/
structure CalendarDay where
  year : Int
  month : Nat
  day : Nat
  deriving DecidableEq, Repr

namespace CalendarDay

/-- Days from 1970-01-01 to `d`: years run from March so that the leap day is the last. -/
def toDays (d : CalendarDay) : Int :=
  let y : Int := if d.month ≤ 2 then d.year - 1 else d.year
  let era := y / 400
  let yearOfEra := y - era * 400
  let monthFromMarch : Int := (d.month + 9) % 12
  let dayOfYear := (153 * monthFromMarch + 2) / 5 + d.day - 1
  era * 146097 + yearOfEra * 365 + yearOfEra / 4 - yearOfEra / 100 + dayOfYear - 719468

/-- The day that lies `n` days after 1970-01-01. -/
def ofDays (n : Int) : CalendarDay :=
  let z := n + 719468
  let era := z / 146097
  let dayOfEra := z - era * 146097
  let yearOfEra := (dayOfEra - dayOfEra / 1460 + dayOfEra / 36524 - dayOfEra / 146096) / 365
  let dayOfYear := dayOfEra - (365 * yearOfEra + yearOfEra / 4 - yearOfEra / 100)
  let mp := (5 * dayOfYear + 2) / 153
  let day := (dayOfYear - (153 * mp + 2) / 5 + 1).toNat
  let month := (if mp < 10 then mp + 3 else mp - 9).toNat
  ⟨yearOfEra + era * 400 + (if month ≤ 2 then 1 else 0), month, day⟩

/-- Whether `y` has a leap day. -/
def isLeap (y : Int) : Bool := y % 4 == 0 && (y % 100 != 0 || y % 400 == 0)

/-- The number of days in a month. -/
def monthLength (y : Int) (m : Nat) : Nat :=
  if m == 2 then (if isLeap y then 29 else 28)
  else if m == 4 || m == 6 || m == 9 || m == 11 then 30 else 31

/-- The years that the calendar covers. -/
def covers (y : Int) : Bool := -262143 ≤ y && y ≤ 262142

/-- The day with these numbers, if there is one. -/
def make? (y : Int) (m d : Nat) : Option CalendarDay :=
  if covers y && 1 ≤ m && m ≤ 12 && 1 ≤ d && d ≤ monthLength y m then some ⟨y, m, d⟩ else none

/-- The year with at least four digits; one outside 0..9999 carries a sign. -/
def yearText (y : Int) : String :=
  if 0 ≤ y && y ≤ 9999 then Decimal.padded 4 y.toNat
  else (if y < 0 then "-" else "+") ++ Decimal.padded 4 y.natAbs

end CalendarDay

namespace Moment

/-- The day of a moment and the seconds since its start. -/
def split (m : Moment) : CalendarDay × Nat :=
  (.ofDays (m.seconds / 86400), (m.seconds % 86400).toNat)

/-- The fraction of a second: none, or three, six or nine digits, as few as are exact. -/
def fractionText (nanos : Nat) : String :=
  if nanos == 0 then ""
  else if nanos % 1000000 == 0 then "." ++ Decimal.padded 3 (nanos / 1000000)
  else if nanos % 1000 == 0 then "." ++ Decimal.padded 6 (nanos / 1000)
  else "." ++ Decimal.padded 9 nanos

/-- The moment as `2026-03-01T10:00:00Z`. -/
def text (m : Moment) : String :=
  let (d, s) := m.split
  let leap := 1000000000 ≤ m.nanos
  let second := s % 60 + (if leap then 1 else 0)
  let nanos := if leap then m.nanos - 1000000000 else m.nanos
  CalendarDay.yearText d.year ++ "-" ++ Decimal.padded 2 d.month ++ "-" ++
    Decimal.padded 2 d.day ++ "T" ++ Decimal.padded 2 (s / 3600) ++ ":" ++
    Decimal.padded 2 (s / 60 % 60) ++ ":" ++ Decimal.padded 2 second ++ fractionText nanos ++ "Z"

/-- The moment as `20260301_100000`. -/
def stamp (m : Moment) : String :=
  let (d, s) := m.split
  let second := s % 60 + (if 1000000000 ≤ m.nanos then 1 else 0)
  CalendarDay.yearText d.year ++ Decimal.padded 2 d.month ++ Decimal.padded 2 d.day ++ "_" ++
    Decimal.padded 2 (s / 3600) ++ Decimal.padded 2 (s / 60 % 60) ++ Decimal.padded 2 second

/-- A run of one to `most` digits and what follows it. -/
def number? (most : Nat) (cs : List Char) : Option (Nat × List Char) :=
  let ds := (cs.takeWhile Decimal.isDigit).take most
  if ds.isEmpty then none
  else some (ds.foldl (fun n c => n * 10 + (c.toNat - 48)) 0, cs.drop ds.length)

/-- A number of one or two digits within `lo..hi`, with blanks in front. -/
def field? (lo hi : Nat) (cs : List Char) : Option (Nat × List Char) := do
  let (n, rest) ← number? 2 (Text.trimFront cs)
  if lo ≤ n && n ≤ hi then some (n, rest) else none

/-- The year: four digits at most, or any number of them after a sign. -/
def year? (cs : List Char) : Option (Int × List Char) :=
  match Text.trimFront cs with
  | '-' :: r => (number? r.length r).map fun (n, r) => (-n, r)
  | '+' :: r => (number? r.length r).map fun (n, r) => (n, r)
  | r => (number? 4 r).map fun (n, r) => (n, r)

/-- The rest of `cs` after blanks and the character `c`. -/
def separator? (c : Char) (cs : List Char) : Option (List Char) :=
  match Text.trimFront cs with
  | d :: r => if d == c then some r else none
  | [] => none

/-- The nanoseconds of a fraction; digits past the ninth are dropped. -/
def fraction? : List Char → Option (Nat × List Char)
  | '.' :: cs => do
    let (n, _) ← number? 9 cs
    let ds := cs.takeWhile Decimal.isDigit
    some (n * Nat.pow 10 (9 - min 9 ds.length), cs.drop ds.length)
  | cs => some (0, cs)

/-- The offset from UTC in seconds: `Z`, the word `UTC`, or a sign, hours and minutes. -/
def offset? (cs : List Char) : Option (Int × List Char) :=
  match cs with
  | 'Z' :: r | 'z' :: r => some (0, r)
  | u :: t :: c :: r =>
    if u.toUpper == 'U' && t.toUpper == 'T' && c.toUpper == 'C' then some (0, r)
    else if u == '+' || u == '-' || u == Char.ofNat 0x2212 then do
      let h1 ← Decimal.digit? t
      let h2 ← Decimal.digit? c
      match r.dropWhile fun c => c == ':' || Text.isBlank c with
      | m1 :: m2 :: r =>
        let m1 ← Decimal.digit? m1
        let m2 ← Decimal.digit? m2
        let size : Int := (h1 * 10 + h2) * 3600 + (m1 * 10 + m2) * 60
        if m1 ≤ 5 && size < 86400 then some (if u == '+' then size else -size, r) else none
      | _ => none
    else none
  | _ => none

/-- The moment that `s` writes: a date, one of `T`, `t` or a space, a time, and an offset.  Blanks
may stand around the separators and numbers may lack leading zeros. -/
def read? (s : String) : Option Moment := do
  let (y, cs) ← year? s.toList
  let cs ← separator? '-' cs
  let (mo, cs) ← field? 1 12 cs
  let cs ← separator? '-' cs
  let (d, cs) ← field? 1 31 cs
  let cs ← match cs with
    | 'T' :: r | 't' :: r | ' ' :: r => some r
    | _ => none
  let (h, cs) ← field? 0 23 cs
  let cs ← separator? ':' cs
  let (mi, cs) ← field? 0 59 cs
  let cs ← separator? ':' cs
  let (sec, cs) ← field? 0 60 cs
  let (ns, cs) ← fraction? cs
  let (off, cs) ← offset? (Text.trimFront cs)
  if !cs.all Text.isBlank then none
  else
    let day ← CalendarDay.make? y mo d
    let leap := sec == 60
    let seconds := day.toDays * 86400 + (h * 3600 + mi * 60 + (if leap then 59 else sec)) - off
    if CalendarDay.covers (CalendarDay.ofDays (seconds / 86400)).year then
      some ⟨seconds, ns + (if leap then 1000000000 else 0)⟩
    else none

end Moment

end SuiteBench
