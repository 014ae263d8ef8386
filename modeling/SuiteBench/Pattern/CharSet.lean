import SuiteBench.Text.Case
import SuiteBench.Text.Lines
import SuiteBench.Text.Ranges
import SuiteBench.Text.Word

/-!
# Pattern.CharSet — sets of characters

The sets that patterns name: single characters, ranges, tables, the classes of words, digits and
blanks, and what unions, intersections, complements and disregard of case make of them.
-/

namespace SuiteBench

/-- A set of characters. -/
inductive CharSet where
  | one (c : Char)
  | range (first last : Char)
  | table (rs : List Text.CharRun)
  | word
  | digit
  | blank
  /-- Everything but a line feed. -/
  | inLine
  | all
  | none
  | union (a b : CharSet)
  | inter (a b : CharSet)
  | complement (a : CharSet)
  /-- The characters that differ from a member in case at most. -/
  | ignoringCase (a : CharSet)
  /-- The same for the letters from A to Z alone. -/
  | ignoringBasicCase (a : CharSet)
  deriving DecidableEq, Repr

namespace CharSet

/-- The characters that fold to the same letter as `c`. -/
def caseVariants (c : Char) : List Char :=
  let f := Text.foldChar c
  f :: f.toUpper :: Text.foldRanges.toList.filterMap fun r =>
    let n : Int := f.toNat - r.shift
    if r.first ≤ n && n ≤ r.last && (n - r.first) % r.step == 0 then some (Char.ofNat n.toNat)
    else Option.none

/-- Whether `c` belongs to the set. -/
def has : CharSet → Char → Bool
  | one d, c => c == d
  | range a b, c => a ≤ c && c ≤ b
  | table rs, c => rs.any (·.has c.toNat)
  | word, c => Text.isWord c
  | digit, c => Text.isDigit c
  | blank, c => Text.isBlank c
  | inLine, c => c != '\n'
  | all, _ => true
  | none, _ => false
  | union a b, c => a.has c || b.has c
  | inter a b, c => a.has c && b.has c
  | complement a, c => !a.has c
  | ignoringCase (one d), c => Text.foldChar c == Text.foldChar d
  | ignoringCase a, c => a.has c || (caseVariants c).any a.has
  | ignoringBasicCase a, c => a.has c || a.has c.toLower || a.has c.toUpper

/-- The members of any of the sets. -/
def unions (ss : List CharSet) : CharSet := ss.foldr union none

/-- The members of `a` that do not belong to `b`. -/
def without (a b : CharSet) : CharSet := inter a (complement b)

/-- The characters of `s`. -/
def ofText (s : String) : CharSet := unions (s.toList.map one)

/-- The characters that a table lists. -/
def ofTable (s : String) : CharSet := table (Text.runs s)

theorem has_without (a b : CharSet) (c : Char) :
    (a.without b).has c = (a.has c && !b.has c) := rfl

end CharSet

end SuiteBench
