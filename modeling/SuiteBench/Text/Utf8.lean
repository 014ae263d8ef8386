/-!
# Text.Utf8 — text from bytes that may not be text

`Utf8.units` cuts a byte sequence into characters and broken runs, a broken run being the longest
start of a character that the next byte does not continue.  Reading text strictly stops at the
first broken run; reading it leniently puts U+FFFD in its place.
-/

namespace SuiteBench.Text.Utf8

/-- What a leading byte promises: how many bytes follow, and the range of the first of them. -/
def promise (b : UInt8) : Option (Nat × UInt8 × UInt8) :=
  if b < 0x80 then some (0, 0x80, 0xBF)
  else if 0xC2 ≤ b && b ≤ 0xDF then some (1, 0x80, 0xBF)
  else if b == 0xE0 then some (2, 0xA0, 0xBF)
  else if b == 0xED then some (2, 0x80, 0x9F)
  else if 0xE1 ≤ b && b ≤ 0xEF then some (2, 0x80, 0xBF)
  else if b == 0xF0 then some (3, 0x90, 0xBF)
  else if 0xF1 ≤ b && b ≤ 0xF3 then some (3, 0x80, 0xBF)
  else if b == 0xF4 then some (3, 0x80, 0x8F)
  else none

/-- The bytes of `rest` that continue a character: at most `n`, the first within `lo..hi`. -/
def continuation : Nat → UInt8 → UInt8 → List UInt8 → List UInt8
  | 0, _, _, _ => []
  | _ + 1, _, _, [] => []
  | n + 1, lo, hi, b :: rest =>
    if lo ≤ b && b ≤ hi then b :: continuation n 0x80 0xBF rest else []

/-- The bits that a leading byte contributes when `n` bytes follow. -/
def leadBits (b : UInt8) : Nat → Nat
  | 0 => b.toNat
  | 1 => b.toNat % 32
  | 2 => b.toNat % 16
  | _ => b.toNat % 8

/-- The first unit of `b :: rest`: a character or `none`, and how many bytes of `rest` it takes. -/
def firstUnit (b : UInt8) (rest : List UInt8) : Option Char × Nat :=
  match promise b with
  | none => (none, 0)
  | some (n, lo, hi) =>
    let more := continuation n lo hi rest
    if more.length == n then
      (some (Char.ofNat (more.foldl (fun acc m => acc * 64 + m.toNat % 64) (leadBits b n))), n)
    else (none, more.length)

/-- The characters (`some`) and broken runs (`none`) of a byte sequence, each with its length. -/
def units : List UInt8 → List (Option Char × Nat)
  | [] => []
  | b :: rest =>
    let (u, n) := firstUnit b rest
    (u, n + 1) :: units (rest.drop n)
termination_by bytes => bytes.length
decreasing_by simp only [List.length_cons, List.length_drop]; omega

/-- The text of `bytes`, with U+FFFD for each broken run. -/
def lossyChars (bytes : List UInt8) : List Char :=
  (units bytes).map fun u => u.1.getD (Char.ofNat 0xFFFD)

/-- The text of `bytes`, with U+FFFD for each broken run. -/
def lossy (bytes : ByteArray) : String := String.ofList (lossyChars bytes.data.toList)

/-- How many bytes stand before the first broken run. -/
def intactBytes (bytes : List UInt8) : Nat :=
  ((units bytes).takeWhile (·.1.isSome)).foldl (fun n u => n + u.2) 0

/-- The text of `bytes`, or the number of intact bytes before the first broken run. -/
def decode (bytes : List UInt8) : Except Nat (List Char) :=
  let us := units bytes
  if us.all (·.1.isSome) then .ok (us.filterMap (·.1)) else .error (intactBytes bytes)

end SuiteBench.Text.Utf8
