import SuiteBench.Shell.Utilities.Operands

/-!
# Shell.Utilities.Texts — programs that count, cut, sort and reshape text
-/

namespace SuiteBench.Shell.Utilities

open Process

/-! ### Parts of a text -/

/-- How much of a text a call asks for: the amount with its sign, whether it counts bytes, and the
files. -/
def amount (args : List String) : Option (String × Bool × List String) :=
  let args := match args with
    | a :: r => match a.toList with
      | '-' :: d :: ds => if d.isDigit then "-n" :: String.ofList (d :: ds) :: r else a :: r
      | _ => a :: r
    | [] => []
  let (fs, files) := options ['n', 'c'] args
  match fs.value? 'c', fs.value? 'n' with
  | some n, _ => some (n, true, files)
  | none, some n => some (n, false, files)
  | none, none => some ("10", false, files)

/-- The number of an amount without its sign. -/
def amountOf? (s : String) : Option Nat :=
  match s.toList with
  | '-' :: ds => natOf? (String.ofList ds)
  | '+' :: ds => natOf? (String.ofList ds)
  | ds => match natOf? (String.ofList ds) with
    | some n => some n
    | none => match ds.getLast? with
      | some 'k' => (natOf? (String.ofList ds.dropLast)).map (· * 1024)
      | some 'K' => (natOf? (String.ofList ds.dropLast)).map (· * 1024)
      | some 'M' => (natOf? (String.ofList ds.dropLast)).map (· * 1048576)
      | _ => none

/-- Writes a part of each file. -/
def partOf (command : String) (cut : Char → Nat → List (List UInt8) → List (List UInt8))
    (args : List String) (p : Process) : Process :=
  match amount args with
  | none => p
  | some (text, inBytes, files) =>
    match amountOf? text with
    | none => p.complain command ("invalid number of " ++ (if inBytes then "bytes" else "lines") ++
        ": '" ++ text ++ "'")
    | some n =>
      let sign := match text.toList.head? with
        | some '-' => '-'
        | some '+' => '+'
        | _ => ' '
      let files := if files.isEmpty then ["-"] else files
      let several := 1 < files.length
      (files.zipIdx.foldl (fun (p : Process) (a, i) =>
        let title := if several then
          (if i = 0 then "" else "\n") ++ "==> " ++ (if a == "-" then "standard input" else a) ++
            " <==\n" else ""
        if a == "-" then
          let pieces := if inBytes then p.input.map ([·]) else byteLines p.input
          ({ p with input := [] }.say 1 title).write 1 (cut sign n pieces).flatten
        else if a == zeros && inBytes && sign == ' ' then p.write 1 (List.replicate n 0)
        else match p.contentOf a with
          | .ok bytes =>
            let pieces := if inBytes then bytes.map ([·]) else byteLines bytes
            (p.say 1 title).write 1 (cut sign n pieces).flatten
          | .error e =>
            p.complain command ("cannot open '" ++ a ++ "' for reading: " ++ reason e))
        (p.withStatus 0))

/-- The first lines or bytes; a minus sign leaves out the last ones instead. -/
def head : Utility := partOf "head" fun sign n pieces =>
  if sign == '-' then pieces.take (pieces.length - n) else pieces.take n

/-- The last lines or bytes; a plus sign names the first one to write. -/
def tail : Utility := partOf "tail" fun sign n pieces =>
  if sign == '+' then pieces.drop (n - 1) else pieces.drop (pieces.length - n)

/-- The words of a byte sequence. -/
def wordCount (bytes : List UInt8) : Nat :=
  ((Text.splitOnP (fun c => c == ' ' || (9 ≤ c.toNat && c.toNat ≤ 13))
    (bytes.map fun b => Char.ofNat b.toNat)).filter (!·.isEmpty)).length

/-- A number behind blanks up to a width. -/
def aligned (width n : Nat) : String :=
  let ds := Decimal.digits n
  String.ofList (List.replicate (width - ds.length) ' ' ++ ds)

/-- Counts lines, words and bytes. -/
def count (args : List String) (p : Process) : Process :=
  let (fs, files) := options [] args
  let counts (bytes : List UInt8) : List Nat :=
    let every := !(fs.has 'l' || fs.has 'w' || fs.has 'c' || fs.has 'm')
    (if every || fs.has 'l' then [bytes.count 10] else []) ++
      (if every || fs.has 'w' then [wordCount bytes] else []) ++
      (if fs.has 'm' then [(Text.Utf8.lossyChars bytes).length] else []) ++
      (if every || fs.has 'c' then [bytes.length] else [])
  let operands := if files.isEmpty then ["-"] else files
  let (rows, p) := operands.foldl (fun (rows, p) a =>
    if a == "-" then (rows ++ [(counts p.input, if files.isEmpty then "" else " -")],
      { p with input := [] })
    else match p.contentOf a with
      | .ok bytes => (rows ++ [(counts bytes, " " ++ a)], p)
      | .error e => (rows, p.complain "wc" (a ++ ": " ++ reason e))) ([], p.withStatus 0)
  let total : List Nat := match rows with
    | [] => counts []
    | (first, _) :: more => more.foldl (fun acc r => List.zipWith (· + ·) acc r.1) first
  let rows := if 1 < operands.length then rows ++ [(total, " total")] else rows
  let columns := (counts []).length
  let widest := (total.map fun n => (Decimal.digits n).length).foldl max 1
  let width := if columns = 1 && operands.length = 1 then 1
    else if operands.contains "-" then 7 else widest
  p.say 1 (String.join (rows.map fun (ns, name) =>
    Text.join " " (ns.map (aligned width)) ++ name ++ "\n"))

/-- Characters of fields, bytes or lines: ranges of numbers from one on. -/
def rangesOf (s : String) : List (Nat × Option Nat) :=
  (Text.splitOnP (· == ',') s.toList).filterMap fun part =>
    match Text.splitAtFirst? ['-'] part with
    | some (a, b) => some ((natOf? (String.ofList a)).getD 1,
        if b.isEmpty then none else natOf? (String.ofList b))
    | none => (natOf? (String.ofList part)).map fun n => (n, some n)

/-- Whether ranges hold a number. -/
def inRanges (rs : List (Nat × Option Nat)) (n : Nat) : Bool :=
  rs.any fun (a, b) => a ≤ n && (b.all fun b => n ≤ b)

/-- Cuts columns or fields out of lines. -/
def cutColumns (args : List String) (p : Process) : Process :=
  let (fs, files) := options ['d', 'f', 'c', 'b'] args
  let (bytes, q) := gather "cut" files p
  let lines := bareLines bytes
  let chosen := match fs.value? 'f', (fs.value? 'c').orElse fun _ => fs.value? 'b' with
    | some f, _ =>
      let mark := ((fs.value? 'd').bind fun d => d.toUTF8.toList.head?).getD 9
      lines.filterMap fun l =>
        if !l.contains mark then (if fs.has 's' then none else some l)
        else
          let fields := Text.splitOnP (fun c => c == Char.ofNat mark.toNat)
            (l.map fun b => Char.ofNat b.toNat)
          let kept := (fields.zipIdx 1).filter fun (_, i) => inRanges (rangesOf f) i
          some ((kept.map fun (f, _) => f.map fun c => UInt8.ofNat c.toNat).intersperse [mark]).flatten
    | none, some c => lines.map fun l =>
        ((l.zipIdx 1).filter fun (_, i) => inRanges (rangesOf c) i).map (·.1)
    | none, none => []
  q.write 1 (joinLines chosen)

/-! ### Order -/

/-- The number at the front of a text, for sorting: blanks, a sign and digits with a point. -/
def leadingNumber (cs : List Char) : Int :=
  let cs := cs.dropWhile fun c => c == ' ' || c == '\t'
  let (negative, cs) := match cs with
    | '-' :: r => (true, r)
    | r => (false, r)
  let whole := cs.takeWhile Char.isDigit
  let part := match cs.drop whole.length with
    | '.' :: r => r.takeWhile Char.isDigit
    | _ => []
  let n : Int := (whole ++ (part ++ List.replicate 9 '0').take 9).foldl
    (fun n c => n * 10 + ((c.toNat : Int) - 48)) 0
  if negative then -n else n

/-- The part of a line from its key field on; fields are cut at a mark, or at blanks that belong to the
field behind them. -/
def keyOf (mark : Option Char) (key : Option String) (line : List Char) : List Char :=
  match key with
  | none => line
  | some k =>
    let number (cs : List Char) : Nat := max 1 (Arithmetic.digits 10 cs).1
    let (first, last) := match Text.splitAtFirst? [','] k.toList with
      | some (a, b) => (number a, some (number b))
      | none => (number k.toList, none)
    let fields : List (List Char) := match mark with
      | some m => Text.splitOnP (· == m) line
      | none =>
        let rec cut : List Char → List Char → List (List Char)
          | acc, [] => [acc.reverse]
          | acc, c :: r =>
            let blank := c == ' ' || c == '\t'
            let inField := acc.any fun x => x != ' ' && x != '\t'
            if blank && inField then acc.reverse :: cut [c] r else cut (c :: acc) r
        cut [] line
    let kept := (fields.drop (first - 1)).take (match last with
      | some l => l + 1 - first
      | none => fields.length)
    match mark with
    | some m => (kept.intersperse [m]).flatten
    | none => kept.flatten

/-- Sorts lines. -/
def sort (args : List String) (p : Process) : Process :=
  let (fs, files) := options ['k', 't', 'o', 'S', 'T'] args
  let missing? := files.find? fun a => a != "-" && (p.contentOf a).toOption.isNone
  match missing? with
  | some a =>
    let why := match p.contentOf a with
      | .error e => reason e
      | .ok _ => ""
    (p.complain "sort" ("cannot read: " ++ a ++ ": " ++ why)).withStatus 2
  | none =>
  let (bytes, q) := gather "sort" files p
  let text (l : List UInt8) : List Char := l.map fun b => Char.ofNat b.toNat
  let mark := (fs.value? 't').bind fun t => t.toList.head?
  let spec := fs.value? 'k'
  let flagged (c : Char) : Bool := fs.has c || spec.any fun k => k.toList.contains c
  let key (l : List UInt8) : List Char := keyOf mark spec (text l)
  let order (a b : List UInt8) : Ordering :=
    if flagged 'n' then compare (leadingNumber (key a)) (leadingNumber (key b))
    else if flagged 'f' then compare ((String.ofList (key a)).toUpper) ((String.ofList (key b)).toUpper)
    else compare (String.ofList (key a)) (String.ofList (key b))
  let turned (o : Ordering) : Ordering := if flagged 'r' then o.swap else o
  let whole (a b : List UInt8) : Ordering :=
    let o := compare (String.ofList (text a)) (String.ofList (text b))
    if fs.has 'r' then o.swap else o
  let before (a b : List UInt8) : Bool :=
    match turned (order a b) with
    | .lt => true
    | .gt => false
    | .eq => fs.has 's' || fs.has 'u' || whole a b != .gt
  let sorted := (bareLines bytes).mergeSort before
  let distinct := sorted.foldr (fun l acc => match acc with
    | x :: r => if order l x == .eq then l :: r else l :: x :: r
    | [] => [l]) []
  q.write 1 (joinLines (if fs.has 'u' then distinct else sorted))

/-- Equal neighbours of a list with their number. -/
def runs {α : Type} (same : α → α → Bool) : List α → List (α × Nat)
  | [] => []
  | a :: r =>
    match runs same r with
    | (b, n) :: more => if same a b then (a, n + 1) :: more else (a, 1) :: (b, n) :: more
    | [] => [(a, 1)]

/-- Drops lines that equal the one in front of them. -/
def unique (args : List String) (p : Process) : Process :=
  let (fs, files) := options ['f', 's', 'w'] args
  let (bytes, q) := gather "uniq" (files.take 1) p
  let kept := (runs (· == ·) (bareLines bytes)).filter fun (_, n) =>
    (!fs.has 'd' || 1 < n) && (!fs.has 'u' || n = 1)
  q.write 1 (joinLines (kept.map fun (l, n) =>
    if fs.has 'c' then (aligned 7 n ++ " ").toUTF8.toList ++ l else l))

/-- The lines from the last to the first. -/
def backwards (args : List String) (p : Process) : Process :=
  let (bytes, q) := gather "tac" (options [] args).2 p
  q.write 1 (byteLines bytes).reverse.flatten

/-- Each line from its last character to its first. -/
def reversed (args : List String) (p : Process) : Process :=
  let (bytes, q) := gather "rev" (options [] args).2 p
  q.write 1 ((byteLines bytes).flatMap fun l =>
    let ended := l.getLast? == some 10
    let cs := Text.Utf8.lossyChars (l.filter (· != 10))
    (String.ofList cs.reverse).toUTF8.toList ++ (if ended then [10] else []))

/-- The lines with their numbers. -/
def numberLines (args : List String) (p : Process) : Process :=
  let (bytes, q) := gather "nl" (options [] args).2 p
  let (rows, _) := (bareLines bytes).foldl (fun (rows, n) l =>
    if l.isEmpty then (rows ++ ["      ".toUTF8.toList ++ [32]], n)
    else (rows ++ [(aligned 6 n ++ "\t").toUTF8.toList ++ l], n + 1)) ([], 1)
  q.write 1 (joinLines rows)

/-! ### Characters -/

/-- The characters of a class. -/
def classBytes (name : String) : List UInt8 :=
  let holds (c : Char) : Bool := match name with
    | "alpha" => c.isAlpha
    | "digit" => c.isDigit
    | "alnum" => c.isAlphanum
    | "lower" => c.isLower
    | "upper" => c.isUpper
    | "space" => Arithmetic.isSpace c
    | "blank" => c == ' ' || c == '\t'
    | "punct" => 32 < c.toNat && c.toNat < 127 && !c.isAlphanum
    | "print" => 32 ≤ c.toNat && c.toNat < 127
    | "graph" => 32 < c.toNat && c.toNat < 127
    | "cntrl" => c.toNat < 32 || c.toNat = 127
    | "xdigit" => (Arithmetic.digit? 16 c).isSome
    | _ => false
  ((List.range 128).filter fun n => holds (Char.ofNat n)).map UInt8.ofNat

/-- The bytes of a set: single ones, escapes, ranges and classes. -/
def setBytes : Nat → List UInt8 → List UInt8
  | 0, _ => []
  | n + 1, bytes =>
    match bytes with
    | [] => []
    | 91 :: 58 :: r =>
      let name := r.takeWhile (· != 58)
      match r.drop name.length with
      | 58 :: 93 :: r =>
        classBytes (String.ofList (name.map fun b => Char.ofNat b.toNat)) ++ setBytes n r
      | _ => 91 :: setBytes n (58 :: r)
    | _ =>
      let one : List UInt8 → Option (UInt8 × List UInt8)
        | 92 :: b :: r =>
          let octal := ((b :: r).take 3).takeWhile fun d => 48 ≤ d && d ≤ 55
          if octal.isEmpty then
            some (if b = 110 then 10 else if b = 116 then 9 else if b = 114 then 13
              else if b = 97 then 7 else if b = 98 then 8 else if b = 102 then 12
              else if b = 118 then 11 else b, r)
          else some (octal.foldl (fun a d => a * 8 + (d - 48)) 0, (b :: r).drop octal.length)
        | b :: r => some (b, r)
        | [] => none
      match one bytes with
      | none => []
      | some (a, 45 :: r@(_ :: _)) =>
        match one r with
        | some (b, r) =>
          ((List.range (b.toNat + 1 - a.toNat)).map fun i => UInt8.ofNat (a.toNat + i)) ++
            setBytes n r
        | none => [a]
      | some (a, r) => a :: setBytes n r

/-- Replaces, deletes or squeezes characters. -/
def translate (args : List String) (p : Process) : Process :=
  let (fs, sets) := options [] args
  match sets.map fun s => setBytes (s.utf8ByteSize + 1) s.toUTF8.toList with
  | [] => missingOperand "tr" p
  | given :: others =>
    let turned := fs.has 'c' || fs.has 'C'
    let member (b : UInt8) : Bool := given.contains b != turned
    let bytes := p.input
    let target := others.head?.getD []
    let changed := if fs.has 'd' then bytes.filter fun b => !member b
      else if target.isEmpty then bytes
      else bytes.map fun b =>
        if !member b then b
        else if turned then (target.getLast?).getD b
        else
          let i := (given.zipIdx.filter fun (x, _) => x == b).getLast?.elim 0 (·.2)
          (target[i]?).getD ((target.getLast?).getD b)
    let squeezed (set : UInt8 → Bool) (bs : List UInt8) : List UInt8 :=
      (runs (fun a b => a == b && set a) bs).map (·.1)
    let last := if fs.has 's' then
        squeezed (if target.isEmpty then member else target.contains) changed
      else changed
    ({ p with input := [] }.write 1 last).withStatus 0

/-! ### Numbers -/

/-- A decimal number as a whole number of billionths, and its places. -/
def billionths? (s : String) : Option (Int × Nat) :=
  let (negative, cs) := match s.toList with
    | '-' :: r => (true, r)
    | r => (false, r)
  let whole := cs.takeWhile Char.isDigit
  let (part, rest) := match cs.drop whole.length with
    | '.' :: r => (r.takeWhile Char.isDigit, r.dropWhile Char.isDigit)
    | r => ([], r)
  if !rest.isEmpty || (whole.isEmpty && part.isEmpty) || 9 < part.length then none
  else
    let n : Int := (Arithmetic.digits 10 (whole ++ (part ++ List.replicate 9 '0').take 9)).1
    some (if negative then -n else n, part.length)

/-- Counts up or down. -/
def sequence (args : List String) (p : Process) : Process :=
  let rec flags : Nat → List String → Flags → Flags × List String
    | 0, r, fs => (fs, r)
    | _ + 1, [], fs => (fs, [])
    | n + 1, a :: r, fs =>
      match a.toList with
      | ['-', 'w'] => flags n r (('w', "") :: fs)
      | ['-', 's'] => flags n (r.drop 1) (('s', r.head?.getD "") :: fs)
      | '-' :: 's' :: cs => flags n r (('s', String.ofList cs) :: fs)
      | _ => (fs, a :: r)
  let (fs, args) := flags (args.length + 1) args []
  if args.isEmpty then missingOperand "seq" p
  else match args.mapM billionths? with
  | none =>
    let bad := (args.find? fun a => (billionths? a).isNone).getD ""
    p.misused "seq" ("invalid floating point argument: '" ++ bad ++ "'")
  | some ns =>
    let one : Int := 1000000000
    let (first, step, last) : Int × Int × Int := match ns.map (·.1) with
      | [b] => (one, one, b)
      | [a, b] => (a, one, b)
      | [a, s, b] => (a, s, b)
      | _ => (one, one, 0)
    let places := (ns.dropLast.map (·.2)).foldl max 0
    if step = 0 then p.misused "seq" "invalid Zero increment value: '0'"
    else
    let n : Nat :=
      if 0 < step then (Int.fdiv (last - first + step) step).toNat
      else (Int.fdiv (first - last - step) (-step)).toNat
    let written (v : Int) : String :=
      let ds := Decimal.digits v.natAbs
      let ds := List.replicate (10 - ds.length) '0' ++ ds
      (if v < 0 then "-" else "") ++ String.ofList (ds.take (ds.length - 9)) ++
        (if places = 0 then "" else "." ++ String.ofList ((ds.drop (ds.length - 9)).take places))
    let texts := (List.range n).map fun (i : Nat) => written (first + step * (i : Int))
    let width := if fs.has 'w' then (texts.map (·.length)).foldl max 0 else 0
    let padded := texts.map fun t => String.ofList (List.replicate (width - t.length) '0') ++ t
    (if padded.isEmpty then p else p.say 1 (Text.join ((fs.value? 's').getD "\n") padded ++ "\n")).withStatus 0

end SuiteBench.Shell.Utilities
