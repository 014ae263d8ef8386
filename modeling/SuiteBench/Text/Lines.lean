/-!
# Text.Lines — white space, lines and parts of a text

`isBlank` is membership in the property `White_Space`; trimming removes such characters from the
ends of a text and nothing else.  A line ends at a line feed, which may have one carriage return before
it; the text after the last line feed is a line of its own unless it is empty.
-/

namespace SuiteBench.Text

/-! ### White space -/

/-- The characters of the property `White_Space`. -/
def isBlank (c : Char) : Bool :=
  let n := c.toNat
  (9 ≤ n && n ≤ 13) || n == 0x20 || n == 0x85 || n == 0xA0 || n == 0x1680 ||
    (0x2000 ≤ n && n ≤ 0x200A) || n == 0x2028 || n == 0x2029 || n == 0x202F || n == 0x205F ||
    n == 0x3000

/-- `cs` without the blanks in front. -/
def trimFront (cs : List Char) : List Char := cs.dropWhile isBlank

/-- `cs` without the blanks behind. -/
def trimBack (cs : List Char) : List Char := (cs.reverse.dropWhile isBlank).reverse

/-- `cs` without the blanks at either end. -/
def trimChars (cs : List Char) : List Char := trimBack (trimFront cs)

/-- `s` without the blanks at either end. -/
def trim (s : String) : String := String.ofList (trimChars s.toList)

/-- Whether `s` holds nothing but blanks. -/
def isBlankText (s : String) : Bool := s.toList.all isBlank

@[simp] theorem trimFront_nil : trimFront [] = [] := rfl

theorem trimFront_cons_of_not_blank {c : Char} {cs : List Char} (h : isBlank c = false) :
    trimFront (c :: cs) = c :: cs := by simp [trimFront, h]

/-! ### Lines and parts -/

/-- The pieces of `cs` between the characters that satisfy `sep`; there is always at least one. -/
def splitOnP (sep : Char → Bool) : List Char → List (List Char)
  | [] => [[]]
  | c :: cs =>
    if sep c then [] :: splitOnP sep cs
    else match splitOnP sep cs with
      | [] => [[c]]
      | p :: ps => (c :: p) :: ps

/-- A line without the carriage return that closes it. -/
def dropReturn (line : List Char) : List Char :=
  if line.getLast? = some '\r' then line.dropLast else line

/-- The lines of `cs`, without their terminators. -/
def linesOf (cs : List Char) : List (List Char) :=
  match (splitOnP (· == '\n') cs).reverse with
  | [] => []
  | last :: before =>
    before.reverse.map dropReturn ++ (if last.isEmpty then [] else [last])

/-- The lines of `s`, without their terminators. -/
def lines (s : String) : List String := (linesOf s.toList).map String.ofList

/-- Whether `cs` starts with `p`. -/
def startsWith : List Char → List Char → Bool
  | [], _ => true
  | _ :: _, [] => false
  | p :: ps, c :: cs => p == c && startsWith ps cs

/-- What is left of `cs` after `p`, if `cs` starts with it. -/
def stripFront? : List Char → List Char → Option (List Char)
  | [], cs => some cs
  | _ :: _, [] => none
  | p :: ps, c :: cs => if p == c then stripFront? ps cs else none

/-- Whether `p` occurs somewhere in `cs`. -/
def occursIn (p : List Char) : List Char → Bool
  | [] => p.isEmpty
  | c :: cs => startsWith p (c :: cs) || occursIn p cs

/-- The text before and after the first occurrence of `p` in `cs`. -/
def splitAtFirst? (p : List Char) : List Char → Option (List Char × List Char)
  | [] => if p.isEmpty then some ([], []) else none
  | c :: cs =>
    match stripFront? p (c :: cs) with
    | some rest => some ([], rest)
    | none => (splitAtFirst? p cs).map fun (a, b) => (c :: a, b)

/-- Whether `s` contains `p`. -/
def contains (s p : String) : Bool := occursIn p.toList s.toList

/-- At most the first `n` characters of `s`. -/
def truncate (s : String) (n : Nat) : String := String.ofList (s.toList.take n)

/-- The texts `parts` with `sep` between them. -/
def join (sep : String) (parts : List String) : String := String.intercalate sep parts

/-- The text of `n` times `c`. -/
def repeatChar (n : Nat) (c : Char) : String := String.ofList (List.replicate n c)

/-- `s` with blanks in front up to `width` characters. -/
def padFront (width : Nat) (s : String) : String := repeatChar (width - s.length) ' ' ++ s

/-- `s` with blanks behind up to `width` characters. -/
def padBack (width : Nat) (s : String) : String := s ++ repeatChar (width - s.length) ' '

theorem splitOnP_ne_nil (sep : Char → Bool) (cs : List Char) : splitOnP sep cs ≠ [] := by
  cases cs with
  | nil => simp [splitOnP]
  | cons c cs =>
    rw [splitOnP]
    split
    · simp
    · split <;> simp

theorem stripFront?_eq_some_iff {p cs r : List Char} :
    stripFront? p cs = some r ↔ cs = p ++ r := by
  induction p generalizing cs with
  | nil => simp [stripFront?]
  | cons a p ih =>
    cases cs with
    | nil => simp [stripFront?]
    | cons c cs =>
      by_cases h : a = c
      · subst h; simp [stripFront?, ih]
      · simp [stripFront?, h, Ne.symm h]

theorem startsWith_iff {p cs : List Char} : startsWith p cs = true ↔ ∃ r, cs = p ++ r := by
  induction p generalizing cs with
  | nil => simp [startsWith]
  | cons a p ih =>
    cases cs with
    | nil => simp [startsWith]
    | cons c cs =>
      by_cases h : a = c
      · subst h; simp [startsWith, ih]
      · simp [startsWith, h, Ne.symm h]

@[simp] theorem truncate_toList (s : String) (n : Nat) :
    (truncate s n).toList = s.toList.take n := by simp [truncate]

end SuiteBench.Text
