import SuiteBench.Pattern.CharSet
import SuiteBench.Text.Category
import SuiteBench.Text.Script
import SuiteBench.Text.Property

/-!
# Pattern.Property — sets of characters by the names of their properties

A property is named by itself, or as the value of a category or of a script.  In names, case, spaces,
hyphens and low lines make no difference, nor does `is` in front.
-/

namespace SuiteBench.CharSet

/-! ### Names -/

/-- A name without what makes no difference. -/
def looseName (s : String) : List Char :=
  let squeeze (cs : List Char) : List Char :=
    (cs.filter fun c => c.toNat < 128 && c != ' ' && c != '_' && c != '-').map Char.toLower
  match s.toList with
  | 'i' :: 's' :: r | 'I' :: 'S' :: r | 'i' :: 'S' :: r | 'I' :: 's' :: r =>
    match squeeze r with
    | ['c'] => "isc".toList
    | r => r
  | cs => squeeze cs

/-- Whether one of `names`, which stand with spaces between them, is the name sought. -/
def isNamed (name : List Char) (names : String) : Bool :=
  (Text.splitOnP (· == ' ') names.toList).any fun n => looseName (String.ofList n) == name

/-- The entry of a table under one of its names. -/
def named? {α : Type} (table : List (String × α)) (name : List Char) : Option α :=
  (table.find? fun e => isNamed name e.1).map (·.2)

/-! ### Categories and scripts -/

/-- The characters of one of the categories that have tables. -/
def category (name : String) : CharSet :=
  ofTable ((named? Text.categoryTables (looseName name)).getD "")

/-- The characters of several categories. -/
def categories (names : List String) : CharSet := unions (names.map category)

/-- The characters with a meaning. -/
def assigned : CharSet := unions (Text.categoryTables.map fun e => ofTable e.2)

/-- The characters of a category or of a group of categories. -/
def ofCategory? (name : List Char) : Option CharSet :=
  match String.ofList name with
  | "any" => some all
  | "ascii" => some (.range '\x00' '\x7f')
  | "assigned" => some assigned
  | "cn" | "unassigned" => some (.complement assigned)
  | "c" | "other" => some (.union (categories ["Cc", "Cf", "Co"]) (.complement assigned))
  | _ =>
    match named? Text.categoryGroups name with
    | some members => some (categories members)
    | .none => (named? Text.categoryTables name).map ofTable

/-- The characters of a script. -/
def ofScript? (name : List Char) : Option CharSet := (named? Text.scriptTables name).map ofTable

/-- The characters that are not used with their own script alone. -/
def shared : CharSet := unions (Text.sharedTables.map fun e => ofTable e.2)

/-- The characters that are used with a script. -/
def usedWithScript? (name : List Char) : Option CharSet :=
  (Text.scriptTables.find? fun e => isNamed name e.1).map fun e =>
    let first := String.ofList (e.1.toList.takeWhile (· != ' '))
    .union ((ofTable e.2).without shared) (ofTable ((Text.sharedTables.lookup first).getD ""))

/-! ### Properties -/

/-- The characters with one of the properties that have tables. -/
def property (name : String) : CharSet :=
  ofTable ((named? Text.propertyTables (looseName name)).getD "")

/-- The lower-case characters. -/
def lowercase : CharSet := .union (category "Ll") (property "Other_Lowercase")

/-- The upper-case characters. -/
def uppercase : CharSet := .union (category "Lu") (property "Other_Uppercase")

/-- The letters and the signs that belong to them. -/
def alphabetic : CharSet :=
  unions [lowercase, uppercase, categories ["Lt", "Lm", "Lo", "Nl"], property "Other_Alphabetic"]

/-- The characters that join the one in front of them. -/
def graphemeExtend : CharSet := .union (categories ["Mn", "Me"]) (property "Other_Grapheme_Extend")

/-- The characters of patterns, which no identifier holds. -/
def patternChar : CharSet := .union (property "Pattern_Syntax") (property "Pattern_White_Space")

/-- The characters that identifiers start with. -/
def idStart : CharSet :=
  (unions [categories ["Lu", "Ll", "Lt", "Lm", "Lo", "Nl"],
    property "Other_ID_Start"]).without patternChar

/-- The characters of identifiers. -/
def idContinue : CharSet :=
  (unions [idStart, categories ["Mn", "Mc", "Nd", "Pc"],
    property "Other_ID_Continue"]).without patternChar

/-- The characters with a lower case of their own. -/
def lowered : CharSet :=
  .union ((categories ["Lu", "Lt"]).without (ofTable Text.unpairedUpper)) (ofTable Text.otherUpper)

/-- The characters with an upper case of their own. -/
def uppered : CharSet :=
  .union ((category "Ll").without (ofTable Text.unpairedLower)) (ofTable Text.otherLower)

/-- The characters with a title case of their own. -/
def titled : CharSet :=
  .union (uppered.without (ofTable Text.upperAlone)) (ofTable Text.titleAlone)

/-- The characters that folding of case changes. -/
def caseFolded : CharSet :=
  .union (lowered.without (ofTable Text.unfolded)) (ofTable Text.otherFolded)

/-- The characters that are not shown where they are not supported. -/
def defaultIgnorable : CharSet :=
  .union (property "Other_Default_Ignorable_Code_Point")
    ((CharSet.union (category "Cf") (property "Variation_Selector")).without
      (unions [property "White_Space", ofTable "FFF9-FFFB 13430-13440",
        property "Prepended_Concatenation_Mark"]))

/-- The properties that follow from others, by their names. -/
def derivedProperties : List (String × (Unit → CharSet)) := [
  ("Alphabetic Alpha", fun _ => alphabetic),
  ("Case_Ignorable CI", fun _ =>
    .union (categories ["Mn", "Me", "Cf", "Lm", "Sk"]) (ofTable Text.caseIgnorableMarks)),
  ("Cased", fun _ => unions [lowercase, uppercase, category "Lt"]),
  ("Changes_When_Casefolded CWCF", fun _ => caseFolded),
  ("Changes_When_Casemapped CWCM", fun _ => unions [lowered, uppered, titled]),
  ("Changes_When_Lowercased CWL", fun _ => lowered),
  ("Changes_When_Titlecased CWT", fun _ => titled),
  ("Changes_When_Uppercased CWU", fun _ => uppered),
  ("Default_Ignorable_Code_Point DI", fun _ => defaultIgnorable),
  ("Grapheme_Base Gr_Base", fun _ =>
    assigned.without (.union (categories ["Cc", "Cf", "Co", "Zl", "Zp"]) graphemeExtend)),
  ("Grapheme_Extend Gr_Ext", fun _ => graphemeExtend),
  ("ID_Continue IDC", fun _ => idContinue),
  ("ID_Start IDS", fun _ => idStart),
  ("Lowercase Lower", fun _ => lowercase),
  ("Math", fun _ => .union (category "Sm") (property "Other_Math")),
  ("Uppercase Upper", fun _ => uppercase),
  ("XID_Continue XIDC", fun _ => idContinue.without (ofTable Text.xidContinueExcluded)),
  ("XID_Start XIDS", fun _ => idStart.without (ofTable Text.xidStartExcluded))]

/-- The characters with a property that either holds or not. -/
def ofFlag? (name : List Char) : Option CharSet :=
  match named? derivedProperties name with
  | some s => some (s ())
  | .none => (named? Text.propertyTables name).map ofTable

/-- The characters that a name describes: with a property, of a category or of a script.  Where a
short name has several meanings the category counts. -/
def ofName? (name : String) : Option CharSet :=
  let name := looseName name
  let short := ["cf", "sc", "lc"].contains (String.ofList name)
  (if short then Option.none else ofFlag? name).or ((ofCategory? name).or (ofScript? name))

end SuiteBench.CharSet
