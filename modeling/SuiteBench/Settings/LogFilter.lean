import SuiteBench.Settings.Logging
import SuiteBench.Pattern.Meaning
import SuiteBench.Decimal.Layout
import SuiteBench.Decimal.Reader

/-!
# Settings.LogFilter — which log lines are let through

A filter is a list of directives with commas between them: a level, or a target with a level, or a
span in brackets, whose fields stand in braces.  Of the directives that fit a line the most specific
one decides.
-/

namespace SuiteBench

/-- The value that a field has to have. -/
inductive LogFieldValue where
  | bool (b : Bool)
  | float (x : Float)
  | notANumber
  | natural (n : Nat)
  | integer (n : Int)
  /-- A text that matches the pattern written so. -/
  | matching (pattern : String)

/-- A field that a span or a line has to have, with a value where one is asked for. -/
structure LogField where
  name : String
  value : Option LogFieldValue

/-- One directive of a filter; without a level nothing is let through. -/
structure LogDirective where
  target : Option String
  span : Option String
  fields : List LogField
  level : Option LogLevel

/-- A filter: directives on lines and directives on spans, each with the most specific first. -/
structure LogFilter where
  lines : List LogDirective
  spans : List LogDirective

namespace LogFieldValue

/-- The value that a text writes: a boolean, a number or a pattern.  A pattern here must not ask for
the words of any script. -/
def read? (cs : List Char) : Option LogFieldValue :=
  match String.ofList cs with
  | "true" => some (.bool true)
  | "false" => some (.bool false)
  | s =>
    match Decimal.readNat Decimal.max64 cs, Decimal.readInt Decimal.maxSigned64 cs,
        Decimal.readFloat? cs with
    | .ok n, _, _ => some (.natural n)
    | _, .ok n, _ => some (.integer n)
    | _, _, some x => some (if x.isNaN then .notANumber else .float x)
    | _, _, none =>
      match Pattern.readHeavy? s with
      | some p => if p.asksForWords then none else some (.matching s)
      | none => none

/-- The text of a value. -/
def text : LogFieldValue → String
  | bool b => if b then "true" else "false"
  | float x => Decimal.Layout.plain.text x
  | notANumber => Decimal.Layout.plain.nan
  | natural n => Decimal.ofNat n
  | integer n => Decimal.ofInt n
  | matching s => s

/-- The place of a kind of value among the others. -/
def kind : LogFieldValue → Nat
  | bool _ => 0
  | float _ => 1
  | notANumber => 2
  | natural _ => 3
  | integer _ => 4
  | matching _ => 5

/-- The order of values: by kind, then by size. -/
def order : LogFieldValue → LogFieldValue → Ordering
  | bool a, bool b => compare a.toNat b.toNat
  | float a, float b => if a < b then .lt else if b < a then .gt else .eq
  | natural a, natural b => compare a b
  | integer a, integer b => compare a b
  | matching a, matching b => compare a b
  | a, b => compare a.kind b.kind

end LogFieldValue

namespace LogField

/-- The field that a text writes: a name, and a value behind an equals sign; what stands behind a
second one is passed over. -/
def read? (cs : List Char) : Option LogField :=
  match Text.splitOnP (· == '=') cs with
  | name :: value :: _ =>
    (LogFieldValue.read? value).map fun v => ⟨String.ofList name, some v⟩
  | name :: _ => some ⟨String.ofList name, none⟩
  | [] => none

/-- The text of a field. -/
def text (f : LogField) : String :=
  f.name ++ (match f.value with
    | some v => "=" ++ v.text
    | none => "")

/-- The order of fields: those with a value come last, then by name and value. -/
def order (a b : LogField) : Ordering :=
  match a.value, b.value with
  | some _, none => .gt
  | none, some _ => .lt
  | none, none => compare a.name b.name
  | some v, some w => (compare a.name b.name).then (v.order w)

/-- The order of lists of fields. -/
def orderOfLists : List LogField → List LogField → Ordering
  | [], [] => .eq
  | [], _ => .lt
  | _, [] => .gt
  | a :: as, b :: bs => (a.order b).then (orderOfLists as bs)

end LogField

namespace LogDirective

/-- The level that a word or a number names; `off` and `0` let nothing through. -/
def level? (s : String) : Option (Option LogLevel) :=
  match Decimal.readNat Decimal.max64 s.toList, String.ofList (s.toList.map Char.toLower) with
  | .ok 0, _ | _, "off" => some none
  | .ok 1, _ | _, "error" => some (some .error)
  | .ok 2, _ | _, "warn" => some (some .warn)
  | .ok 3, _ | _, "info" => some (some .info)
  | .ok 4, _ | _, "debug" => some (some .debug)
  | .ok 5, _ | _, "trace" => some (some .trace)
  | _, _ => none

/-- The text of a level. -/
def levelText : Option LogLevel → String
  | some l => l.name
  | none => "off"

/-! ### Reading -/

/-- How far a directive has been read; a part starts where a number says. -/
inductive Reading where
  | start
  | levelOrTarget (first : Nat)
  | inSpan (first : Nat)
  | inField (first : Nat)
  | behindFields
  | behindSpan
  | inLevel (first : Nat)

/-- Whether a directive may start with a character. -/
def startsDirective (c : Char) : Bool :=
  c == '-' || c == ':' || c == '_' || CharSet.alphabetic.has c ||
    (CharSet.categories ["Nd", "Nl", "No"]).has c

/-- The level behind an equals sign; without one everything is let through. -/
def levelAfter? (s : String) : Option (Option LogLevel) :=
  if s.isEmpty then some (some .trace) else level? s

/-- One character at place `i` of a directive; `part first` is the text from `first` up to it.  The
marks that lead from one part to the next are ASCII, so the next part starts one byte behind. -/
def advance? (part : Nat → String) (i : Nat) (c : Char) (d : LogDirective) :
    Reading → Option (LogDirective × Reading)
  | .start =>
    if c == '[' then some (d, .inSpan (i + 1))
    else if startsDirective c then some (d, .levelOrTarget i) else none
  | .levelOrTarget first =>
    if c == '=' then some ({ d with target := some (part first) }, .inLevel (i + 1))
    else if c == '[' then some ({ d with target := some (part first) }, .inSpan (i + 1))
    else some (d, .levelOrTarget first)
  | .inSpan first =>
    if c == ']' then some ({ d with span := some (part first) }, .behindSpan)
    else if c == '{' then
      some ({ d with span := some (part first) |>.filter (!·.isEmpty) }, .inField (i + 1))
    else some (d, .inSpan first)
  | .inField first =>
    if c == '}' then
      let f := part first
      if f.isEmpty then none
      else (LogField.read? f.toList).map fun f => ({ d with fields := [f] }, .behindFields)
    else some (d, .inField first)
  | .behindFields => if c == ']' then some (d, .behindSpan) else none
  | .behindSpan => if c == '=' then some (d, .inLevel (i + 1)) else none
  | .inLevel first => some (d, .inLevel first)

/-- The bytes of `s` from one place to another, if they form a text. -/
def slice (s : String) (first last : Nat) : String :=
  (String.fromUTF8? (s.toUTF8.extract first last)).getD ""

/-- The directive that a text writes.  Places are counted in bytes behind the blanks in front, yet
parts are cut from the text with its blanks: a text with any in front loses as much at its end. -/
def read? (s : String) : Option LogDirective := do
  let part := slice s
  let (_, d, reading) ← (Text.trimChars s.toList).foldlM
    (fun (i, d, reading) c => (advance? (part · i) i c d reading).map (i + c.utf8Size, ·))
    (0, (⟨none, none, [], some .trace⟩ : LogDirective), Reading.start)
  match reading with
  | .levelOrTarget first =>
    let rest := part first s.utf8ByteSize
    match level? rest with
    | some l => return { d with level := l }
    | none => return { d with target := some rest }
  | .inLevel first => return { d with level := ← levelAfter? (part first s.utf8ByteSize) }
  | .behindSpan => return d
  | _ => none

/-! ### Order -/

/-- The text of a directive. -/
def text (d : LogDirective) : String :=
  let fields := d.fields.map LogField.text
  let scope :=
    if d.span.isNone && d.fields.isEmpty then ""
    else "[" ++ d.span.getD "" ++
      (if fields.isEmpty then "" else "\x7b" ++ Text.join "," fields ++ "\x7d") ++ "]"
  let head := d.target.getD "" ++ scope
  (if head.isEmpty then "" else head ++ "=") ++ levelText d.level

/-- Whether the directive asks for spans. -/
def isOnSpans (d : LogDirective) : Bool := d.span.isSome || !d.fields.isEmpty

/-- The form of a directive that also holds for lines outside of spans. -/
def onLines? (d : LogDirective) : Option LogDirective :=
  if d.span.isNone && d.fields.all (·.value.isNone) then some d else none

/-- How specific a directive is: by the length of its target, then by a span, then by the number of
fields; the texts decide between equals. -/
def order (a b : LogDirective) : Ordering :=
  let size (d : LogDirective) : Nat := (d.target.map fun t => t.utf8ByteSize + 1).getD 0
  ((compare (size a) (size b)).then (compare a.span.isSome.toNat b.span.isSome.toNat)).then
    ((compare a.fields.length b.fields.length).then
      ((compare (a.target.getD "") (b.target.getD "")).then
        ((compare (a.span.getD "") (b.span.getD "")).then
          (LogField.orderOfLists a.fields b.fields))))

/-- The directives with one more, the most specific first; it replaces one of the same scope. -/
def insert (d : LogDirective) : List LogDirective → List LogDirective
  | [] => [d]
  | e :: es =>
    match d.order e with
    | .gt => d :: e :: es
    | .eq => d :: es
    | .lt => e :: insert d es

/-- The field that every line has. -/
def messageField : String := "message"

/-- Whether the directive fits a line of a target. -/
def fits (d : LogDirective) (target : String) : Bool :=
  d.fields.all (·.name == messageField) && match d.target with
    | some t => Text.startsWith t.toList target.toList
    | none => true

end LogDirective

namespace LogFilter

/-- The filter that a text writes; one without directives lets nothing through. -/
def read? (s : String) : Option LogFilter := do
  let parts := ((Text.splitOnP (· == ',') s.toList).filter (!·.isEmpty)).map String.ofList
  let ds ← parts.mapM LogDirective.read?
  let (spans, lines) := ds.partition LogDirective.isOnSpans
  let ordered (ds : List LogDirective) := ds.foldl (fun acc d => LogDirective.insert d acc) []
  return ⟨ordered (lines ++ spans.filterMap LogDirective.onLines?), ordered spans⟩

/-- The filter that lets a level and those above it through. -/
def ofLevel (l : LogLevel) : LogFilter := ⟨[⟨none, none, [], some l⟩], []⟩

/-- The filter that `s` writes, else the one that the variable `fallback` writes, else `info`. -/
def choose (s : String) (fallback : Option String) : LogFilter :=
  ((read? s).or (fallback.bind read?)).getD (ofLevel .info)

/-- The text of a filter. -/
def text (f : LogFilter) : String := Text.join "," ((f.lines ++ f.spans).map LogDirective.text)

/-- Whether a line of a target and a level is let through. -/
def lets (f : LogFilter) (target : String) (level : LogLevel) : Bool :=
  match f.lines.find? fun d => d.fits target with
  | some d => d.level.any fun l => l.shows level
  | none => false

end LogFilter

end SuiteBench
