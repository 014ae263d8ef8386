import SuiteBench.Proofs.Json.Numbers
import SuiteBench.Store.Repository

/-!
# Proofs.Json.RoundTrip — a written document reads back

A document whose numbers read back is read back as a whole, however deep it is; the text itself is
fuel enough, since each level of the reader takes at least one byte of it.
-/

namespace SuiteBench.Json

/-! ### White space -/

/-- A line break and the indentation behind it. -/
def gap (depth : Nat) : List Char := '\n' :: List.replicate (2 * depth) ' '

theorem latin_lineBreak (depth : Nat) : latin (lineBreak depth).toList = gap depth := by
  have ht : (lineBreak depth).toList = gap depth := by simp [lineBreak, gap]
  rw [ht, latin_of_ascii]
  intro c hc
  rcases List.mem_cons.mp hc with rfl | hc
  · decide
  · rw [List.eq_of_mem_replicate hc]
    decide

theorem skip_append {ws : List Char} (h : ∀ c ∈ ws, isSpace c = true) (cs : List Char) :
    skip (ws ++ cs) = skip cs := List.dropWhile_append_of_pos h

theorem isSpace_of_mem_gap {depth : Nat} {c : Char} (h : c ∈ gap depth) : isSpace c = true := by
  rcases List.mem_cons.mp h with rfl | h
  · decide
  · rw [List.eq_of_mem_replicate h]
    decide

@[simp] theorem skip_gap (depth : Nat) (cs : List Char) : skip (gap depth ++ cs) = skip cs :=
  skip_append (fun _ => isSpace_of_mem_gap) cs

theorem skip_cons {c : Char} (h : isSpace c = false) (cs : List Char) : skip (c :: cs) = c :: cs :=
  List.dropWhile_cons_of_neg (by simp [h])

theorem value?_gap (fuel depth : Nat) (cs : List Char) :
    value? fuel (gap depth ++ cs) = value? fuel cs := by
  cases fuel with
  | zero => rfl
  | succ fuel => rw [value?, value?, skip_gap]

theorem items?_gap (fuel depth : Nat) (cs : List Char) :
    items? fuel (gap depth ++ cs) = items? fuel cs := by
  cases fuel with
  | zero => rfl
  | succ fuel => rw [items?, items?, value?_gap]

theorem fields?_gap (fuel depth : Nat) (cs : List Char) :
    fields? fuel (gap depth ++ cs) = fields? fuel cs := by
  cases fuel with
  | zero => rfl
  | succ fuel => rw [fields?, fields?, skip_gap]

/-! ### Parts on lines of their own -/

/-- The bytes of parts on lines of their own up to the bracket that closes them. -/
def closed (closing : String) (depth : Nat) (parts : List String) : List Char :=
  latin (String.intercalate ("," ++ lineBreak (depth + 1)) parts ++ lineBreak depth ++ closing).toList

theorem closed_singleton (closing : String) (depth : Nat) (p : String) :
    closed closing depth [p] = latin p.toList ++ (gap depth ++ latin closing.toList) := by
  simp [closed, latin_lineBreak]

theorem closed_cons_cons (closing : String) (depth : Nat) (p q : String) (ps : List String) :
    closed closing depth (p :: q :: ps) =
      latin p.toList ++ ',' :: (gap (depth + 1) ++ closed closing depth (q :: ps)) := by
  have hc : latin ",".toList = [','] := rfl
  simp only [closed, String.intercalate_cons_cons, String.toList_append, latin_append,
    latin_lineBreak, hc, List.append_assoc]
  rfl

theorem latin_block (opening closing : String) (depth : Nat) (p : String) (ps : List String) :
    latin (block opening closing depth (p :: ps)).toList =
      latin opening.toList ++ (gap (depth + 1) ++ closed closing depth (p :: ps)) := by
  simp [block, closed, latin_lineBreak]

/-! ### Documents -/

mutual

/-- Whether a document is one of numbers that read back and of other values that can be written. -/
def Plain : Json → Prop
  | .null => True
  | .bool _ => True
  | .number n => NumberReads n
  | .string _ => True
  | .broken => False
  | .array xs => PlainItems xs
  | .object fs => PlainFields fs

/-- Whether all items are plain. -/
def PlainItems : List Json → Prop
  | [] => True
  | x :: xs => Plain x ∧ PlainItems xs

/-- Whether all fields are plain. -/
def PlainFields : List (String × Json) → Prop
  | [] => True
  | (_, v) :: fs => Plain v ∧ PlainFields fs

end

/-- What starts neither with white space nor with a bracket that closes. -/
def Starts (cs : List Char) : Prop := ∃ c r, cs = c :: r ∧ isSpace c = false ∧ c ≠ ']'

theorem Starts.append {cs : List Char} (h : Starts cs) (rest : List Char) : Starts (cs ++ rest) := by
  obtain ⟨c, r, rfl, hs, hb⟩ := h
  exact ⟨c, r ++ rest, rfl, hs, hb⟩

theorem Starts.skip_eq {cs : List Char} (h : Starts cs) : skip cs = cs := by
  obtain ⟨c, r, rfl, hs, -⟩ := h
  exact skip_cons hs r

theorem latin_quote (s : String) (rest : List Char) :
    latin (quote s).toList ++ rest = '"' :: (latin (s.toList.flatMap escapeChar) ++ '"' :: rest) := by
  have hq : latin "\"".toList = ['"'] := rfl
  simp only [quote, String.toList_append, latin_append, hq, String.toList_ofList, List.append_assoc,
    List.cons_append, List.nil_append]

theorem latin_numberText {n : JsonNumber} (h : NumberReads n) :
    latin (numberText n).toList = (numberText n).toList :=
  latin_of_ascii fun c hc => numeralChar_ascii (h.1 c hc)

theorem starts_prettyAt (depth : Nat) : ∀ {j : Json}, Plain j → Starts (latin (prettyAt depth j).toList)
  | .null, _ => ⟨'n', ['u', 'l', 'l'], by rw [prettyAt]; rfl, rfl, by decide⟩
  | .bool true, _ => ⟨'t', ['r', 'u', 'e'], by rw [prettyAt]; rfl, rfl, by decide⟩
  | .bool false, _ => ⟨'f', ['a', 'l', 's', 'e'], by rw [prettyAt]; rfl, rfl, by decide⟩
  | .number n, h => by
    obtain ⟨c, front, hc, hn, -⟩ := NumberReads.append h
    rw [prettyAt, latin_numberText h, hc]
    refine ⟨c, front, rfl, not_space_of_numeralChar hn, ?_⟩
    rintro rfl
    exact absurd hn (by decide)
  | .string s, _ => by
    have hq := latin_quote s []
    rw [List.append_nil] at hq
    rw [prettyAt, hq]
    exact ⟨'"', _, rfl, rfl, by decide⟩
  | .array [], _ => ⟨'[', [']'], by simp [prettyAt, prettyItems, block]; rfl, rfl, by decide⟩
  | .array (x :: xs), _ => by
    rw [prettyAt, prettyItems, latin_block]
    exact ⟨'[', _, rfl, rfl, by decide⟩
  | .object [], _ => ⟨'{', ['}'], by simp [prettyAt, prettyFields, block]; rfl, rfl, by decide⟩
  | .object ((k, v) :: fs), _ => by
    rw [prettyAt, prettyFields, latin_block]
    exact ⟨'{', _, rfl, rfl, by decide⟩

theorem objectOf_some (fs : List (String × Json)) :
    objectOf (fs.map fun f => (some f.1, f.2)) = .object fs := by
  have hm : (fs.map fun f => (some f.1, f.2)).mapM
      (fun f : Option String × Json => f.1.map (·, f.2)) = some fs := by
    induction fs with
    | nil => rfl
    | cons f fs ih => simp [List.mapM_cons, ih]
  rw [objectOf, hm]

theorem breaks_gap (depth : Nat) (cs : List Char) : Breaks (gap depth ++ cs) :=
  breaks_cons.mpr (by decide)

/-- The bytes of a field. -/
theorem latin_field (k : String) (v : Json) (depth : Nat) (rest : List Char) :
    latin (quote k ++ ": " ++ prettyAt depth v).toList ++ rest =
      '"' :: (latin (k.toList.flatMap escapeChar) ++
        '"' :: ':' :: ' ' :: (latin (prettyAt depth v).toList ++ rest)) := by
  have hc : latin ": ".toList = [':', ' '] := rfl
  simp only [String.toList_append, latin_append, List.append_assoc, hc, latin_quote,
    List.cons_append, List.nil_append]

/-! ### Steps of the reader -/

theorem value?_space (fuel : Nat) (cs : List Char) : value? fuel (' ' :: cs) = value? fuel cs := by
  cases fuel with
  | zero => rfl
  | succ fuel => rw [value?, value?]; rfl

theorem value?_null (fuel : Nat) (rest : List Char) :
    value? (fuel + 1) (latin "null".toList ++ rest) = some (.null, rest) := by
  have hl : latin "null".toList = ['n', 'u', 'l', 'l'] := rfl
  rw [hl, List.cons_append, value?, skip_cons (by decide)]
  rfl

theorem value?_bool (fuel : Nat) (b : Bool) (rest : List Char) :
    value? (fuel + 1) (latin (if b then "true" else "false").toList ++ rest) =
      some (.bool b, rest) := by
  have ht : latin "true".toList = ['t', 'r', 'u', 'e'] := rfl
  have hf : latin "false".toList = ['f', 'a', 'l', 's', 'e'] := rfl
  cases b
  · rw [if_neg (by decide), hf, List.cons_append, value?, skip_cons (by decide)]
    rfl
  · rw [if_pos rfl, ht, List.cons_append, value?, skip_cons (by decide)]
    rfl

theorem value?_array_nil (fuel : Nat) (rest : List Char) :
    value? (fuel + 1) ('[' :: ']' :: rest) = some (.array [], rest) := by
  have hs : skip (']' :: rest) = ']' :: rest := skip_cons (by decide) rest
  rw [value?, skip_cons (by decide)]
  simp only [hs]

theorem value?_object_nil (fuel : Nat) (rest : List Char) :
    value? (fuel + 1) ('{' :: '}' :: rest) = some (.object [], rest) := by
  have hs : skip ('}' :: rest) = '}' :: rest := skip_cons (by decide) rest
  rw [value?, skip_cons (by decide)]
  simp only [hs]

theorem value?_string (fuel : Nat) (s : String) (rest : List Char) :
    value? (fuel + 1) (latin (quote s).toList ++ rest) = some (.string s, rest) := by
  rw [latin_quote, value?, skip_cons (by decide)]
  simp only [pieces?_quoted, piecesText?_flatMap, Option.bind_eq_bind, Option.bind_some]

theorem value?_number (fuel : Nat) {n : JsonNumber} (h : NumberReads n) {rest : List Char}
    (hb : Breaks rest) :
    value? (fuel + 1) (latin (numberText n).toList ++ rest) = some (.number n, rest) := by
  obtain ⟨c, front, hc, hn, hr⟩ := NumberReads.append h
  obtain ⟨m, plain, hm, ho⟩ := hr rest hb
  rw [latin_numberText h, hc, List.cons_append, value?_numeral hn, hm, Option.map_some]
  dsimp only
  rw [ho]

theorem value?_array {fuel : Nat} {r : List Char} (h : Starts (skip r)) :
    value? (fuel + 1) ('[' :: r) = (items? fuel (skip r)).map fun (xs, r) => (.array xs, r) := by
  obtain ⟨c, r', hr, -, hc⟩ := h
  rw [value?, skip_cons (by decide)]
  simp only [hr]
  split
  · next heq => exact absurd (List.cons.inj heq).1 hc
  · rfl

theorem value?_object {fuel : Nat} {r r' : List Char} (h : skip r = '"' :: r') :
    value? (fuel + 1) ('{' :: r) =
      (fields? fuel ('"' :: r')).map fun (fs, r) => (objectOf fs, r) := by
  rw [value?, skip_cons (by decide)]
  simp only [h]
  split
  · next heq => exact absurd (List.cons.inj heq).1 (by decide)
  · rfl

theorem items?_last {fuel : Nat} {cs r rest : List Char} {x : Json}
    (hx : value? fuel cs = some (x, r)) (hr : skip r = ']' :: rest) :
    items? (fuel + 1) cs = some ([x], rest) := by
  rw [items?, hx]
  simp only [Option.bind_eq_bind, Option.bind_some, hr]

theorem items?_more {fuel : Nat} {cs r r' rest : List Char} {x : Json} {xs : List Json}
    (hx : value? fuel cs = some (x, r)) (hr : skip r = ',' :: r')
    (hxs : items? fuel r' = some (xs, rest)) : items? (fuel + 1) cs = some (x :: xs, rest) := by
  rw [items?, hx]
  simp only [Option.bind_eq_bind, Option.bind_some, hr, hxs, Option.map_some]

theorem fields?_last {fuel : Nat} {k : String} {cs r rest : List Char} {v : Json}
    (hv : value? fuel cs = some (v, r)) (hr : skip r = '}' :: rest) :
    fields? (fuel + 1) ('"' :: (latin (k.toList.flatMap escapeChar) ++ '"' :: ':' :: cs)) =
      some ([(some k, v)], rest) := by
  have hc : skip (':' :: cs) = ':' :: cs := skip_cons (by decide) cs
  rw [fields?, skip_cons (by decide)]
  simp only [pieces?_quoted, Option.bind_eq_bind, Option.bind_some, hc, hv, hr, piecesText?_flatMap]

theorem fields?_more {fuel : Nat} {k : String} {cs r r' rest : List Char} {v : Json}
    {fs : List (Option String × Json)} (hv : value? fuel cs = some (v, r))
    (hr : skip r = ',' :: r') (hfs : fields? fuel r' = some (fs, rest)) :
    fields? (fuel + 1) ('"' :: (latin (k.toList.flatMap escapeChar) ++ '"' :: ':' :: cs)) =
      some ((some k, v) :: fs, rest) := by
  have hc : skip (':' :: cs) = ':' :: cs := skip_cons (by decide) cs
  rw [fields?, skip_cons (by decide)]
  simp only [pieces?_quoted, Option.bind_eq_bind, Option.bind_some, hc, hv, hr, hfs,
    piecesText?_flatMap, Option.map_some]

/-! ### Whole documents -/

theorem starts_closed_items (depth : Nat) {x : Json} (h : Plain x) (xs : List Json) :
    Starts (closed "]" depth (prettyItems (depth + 1) (x :: xs))) := by
  cases xs with
  | nil =>
    rw [prettyItems, prettyItems, closed_singleton]
    exact (starts_prettyAt _ h).append _
  | cons y ys =>
    rw [prettyItems, prettyItems, closed_cons_cons]
    exact (starts_prettyAt _ h).append _

theorem closed_fields (depth : Nat) (k : String) (v : Json) (fs : List (String × Json)) :
    ∃ r, closed "\x7d" depth (prettyFields (depth + 1) ((k, v) :: fs)) = '"' :: r := by
  cases fs with
  | nil =>
    rw [prettyFields, prettyFields, closed_singleton, latin_field]
    exact ⟨_, rfl⟩
  | cons g gs =>
    rw [prettyFields, prettyFields, closed_cons_cons, latin_field]
    exact ⟨_, rfl⟩

mutual

/-- A plain document is read back from its text. -/
theorem value?_prettyAt : ∀ (j : Json) (depth fuel : Nat) (rest : List Char), Plain j → Breaks rest →
    (latin (prettyAt depth j).toList).length ≤ fuel →
    value? (fuel + 1) (latin (prettyAt depth j).toList ++ rest) = some (j, rest)
  | .null => by
    intro depth fuel rest _ _ _
    rw [prettyAt]
    exact value?_null fuel rest
  | .bool b => by
    intro depth fuel rest _ _ _
    rw [prettyAt]
    exact value?_bool fuel b rest
  | .number n => by
    intro depth fuel rest h hb _
    rw [prettyAt]
    exact value?_number fuel h hb
  | .string s => by
    intro depth fuel rest _ _ _
    rw [prettyAt]
    exact value?_string fuel s rest
  | .broken => fun _ _ _ h => h.elim
  | .array [] => by
    intro depth fuel rest _ _ _
    have hl : latin (block "[" "]" depth []).toList = ['[', ']'] := by simp [block]; rfl
    rw [prettyAt, prettyItems, hl]
    exact value?_array_nil fuel rest
  | .array (x :: xs) => by
    intro depth fuel rest h _ hf
    have hs := (starts_closed_items depth h.1 xs).append rest
    have hl : latin "[".toList = ['['] := rfl
    rw [prettyAt, prettyItems, latin_block, ← prettyItems, hl] at hf ⊢
    simp only [List.length_append, List.length_cons, List.length_nil] at hf
    have hi := items?_prettyItems (x :: xs) depth fuel rest (by simp) h (by omega)
    rw [List.append_assoc, List.append_assoc, List.singleton_append, value?_array (by
      rw [skip_gap, hs.skip_eq]; exact hs), skip_gap, hs.skip_eq, hi]
    rfl
  | .object [] => by
    intro depth fuel rest _ _ _
    have hl : latin (block "\x7b" "\x7d" depth []).toList = ['{', '}'] := by simp [block]; rfl
    rw [prettyAt, prettyFields, hl]
    exact value?_object_nil fuel rest
  | .object ((k, v) :: fs) => by
    intro depth fuel rest h _ hf
    obtain ⟨r, hr⟩ := closed_fields depth k v fs
    have hl : latin "\x7b".toList = ['{'] := rfl
    rw [prettyAt, prettyFields, latin_block, ← prettyFields, hl] at hf ⊢
    simp only [List.length_append, List.length_cons, List.length_nil] at hf
    have hi := fields?_prettyFields ((k, v) :: fs) depth fuel rest (by simp) h (by omega)
    rw [hr, List.cons_append] at hi
    have hs : skip (gap (depth + 1) ++ '"' :: (r ++ rest)) = '"' :: (r ++ rest) := by
      rw [skip_gap, skip_cons (by decide)]
    rw [hr, List.append_assoc, List.append_assoc, List.singleton_append, List.cons_append,
      value?_object hs, hi, Option.map_some]
    dsimp only
    rw [objectOf_some]

/-- The items of an array are read back. -/
theorem items?_prettyItems : ∀ (xs : List Json) (depth fuel : Nat) (rest : List Char), xs ≠ [] →
    PlainItems xs → (closed "]" depth (prettyItems (depth + 1) xs)).length + 1 ≤ fuel →
    items? fuel (closed "]" depth (prettyItems (depth + 1) xs) ++ rest) = some (xs, rest)
  | [] => fun _ _ _ h => absurd rfl h
  | [x] => by
    intro depth fuel rest _ h hf
    have hc : latin "]".toList = [']'] := rfl
    rw [prettyItems, prettyItems, closed_singleton, hc] at hf ⊢
    simp only [List.length_append, List.length_cons] at hf
    obtain ⟨f, rfl⟩ : ∃ f, fuel = f + 1 + 1 := ⟨fuel - 2, by omega⟩
    rw [List.append_assoc, List.append_assoc, List.singleton_append]
    refine items?_last (value?_prettyAt x (depth + 1) f _ h.1 (breaks_gap _ _) (by omega)) ?_
    rw [skip_gap, skip_cons (by decide)]
  | x :: y :: ys => by
    intro depth fuel rest _ h hf
    rw [prettyItems, prettyItems, closed_cons_cons, ← prettyItems] at hf ⊢
    simp only [List.length_append, List.length_cons] at hf
    obtain ⟨f, rfl⟩ : ∃ f, fuel = f + 1 + 1 := ⟨fuel - 2, by omega⟩
    have hr := items?_prettyItems (y :: ys) depth (f + 1) rest (by simp) h.2 (by omega)
    rw [List.append_assoc, List.cons_append, List.append_assoc]
    refine items?_more (value?_prettyAt x (depth + 1) f _ h.1
      (breaks_cons.mpr (by decide)) (by omega)) (skip_cons (by decide) _) ?_
    rw [items?_gap, hr]

/-- The fields of an object are read back. -/
theorem fields?_prettyFields : ∀ (fs : List (String × Json)) (depth fuel : Nat) (rest : List Char),
    fs ≠ [] → PlainFields fs →
    (closed "\x7d" depth (prettyFields (depth + 1) fs)).length + 1 ≤ fuel →
    fields? fuel (closed "\x7d" depth (prettyFields (depth + 1) fs) ++ rest) =
      some (fs.map fun f => (some f.1, f.2), rest)
  | [] => fun _ _ _ h => absurd rfl h
  | [(k, v)] => by
    intro depth fuel rest _ h hf
    have hc : latin "\x7d".toList = ['}'] := rfl
    have hq := latin_field k v (depth + 1)
    rw [prettyFields, prettyFields, closed_singleton, hc, hq] at hf ⊢
    simp only [List.length_append, List.length_cons] at hf
    obtain ⟨f, rfl⟩ : ∃ f, fuel = f + 1 + 1 := ⟨fuel - 2, by omega⟩
    simp only [List.cons_append, List.append_assoc]
    have hv := value?_prettyAt v (depth + 1) f (gap depth ++ '}' :: rest) h.1 (breaks_gap _ _)
      (by omega)
    rw [← value?_space] at hv
    exact fields?_last hv (by rw [skip_gap, skip_cons (by decide)])
  | (k, v) :: (l, w) :: fs => by
    intro depth fuel rest _ h hf
    have hq := latin_field k v (depth + 1)
    rw [prettyFields, prettyFields, closed_cons_cons, ← prettyFields, hq] at hf ⊢
    simp only [List.length_append, List.length_cons] at hf
    obtain ⟨f, rfl⟩ : ∃ f, fuel = f + 1 + 1 := ⟨fuel - 2, by omega⟩
    have hr := fields?_prettyFields ((l, w) :: fs) depth (f + 1) rest (by simp) h.2 (by omega)
    simp only [List.cons_append, List.append_assoc]
    have hv := value?_prettyAt v (depth + 1) f
      (',' :: (gap (depth + 1) ++ (closed "\x7d" depth (prettyFields (depth + 1) ((l, w) :: fs)) ++ rest)))
      h.1 (breaks_cons.mpr (by decide)) (by omega)
    rw [← value?_space] at hv
    exact fields?_more hv (skip_cons (by decide) _) (by rw [fields?_gap]; exact hr)

end

/-- What stands around the text of a document does not matter, if it is white space. -/
theorem ofBytes?_of_value? {s : String} {j : Json} {rest : List Char}
    (h : value? ((latin s.toList).length + 1) (latin s.toList) = some (j, rest)) (hr : skip rest = []) :
    ofBytes? s.toUTF8 = some j := by
  rw [ofBytes?_toUTF8, h, Option.bind_some]
  simp only [hr, List.isEmpty_nil, if_true]

/-- A plain document is read back from its file. -/
theorem ofBytes?_fileText {j : Json} (h : Plain j) : ofBytes? j.fileText = some j := by
  have hl : latin "\n".toList = ['\n'] := rfl
  have hs : skip ['\n'] = [] := rfl
  refine ofBytes?_of_value? ?_ hs
  rw [String.toList_append, latin_append, hl, pretty]
  exact value?_prettyAt j 0 _ ['\n'] h (breaks_cons.mpr (by decide)) (by simp)

theorem parse?_pretty {j : Json} (h : Plain j) : parse? j.pretty = some j := by
  have hvalue := value?_prettyAt j 0 _ [] h breaks_nil le_rfl
  rw [List.append_nil] at hvalue
  exact ofBytes?_of_value? hvalue rfl

/-! ### Text without white space -/

/-- The bytes of parts up to the bracket that closes them. -/
def tight (closing : String) (parts : List String) : List Char := latin (commas parts ++ closing).toList

theorem tight_singleton (closing p : String) :
    tight closing [p] = latin p.toList ++ latin closing.toList := by
  simp [tight, commas]

theorem tight_cons_cons (closing p q : String) (ps : List String) :
    tight closing (p :: q :: ps) = latin p.toList ++ ',' :: tight closing (q :: ps) := by
  have hc : latin ",".toList = [','] := rfl
  simp only [tight, commas, String.intercalate_cons_cons, String.toList_append, latin_append, hc,
    List.append_assoc]
  rfl

theorem latin_brackets (opening closing : String) (parts : List String) :
    latin (opening ++ commas parts ++ closing).toList = latin opening.toList ++ tight closing parts := by
  simp [tight]

/-- The bytes of a field. -/
theorem latin_tightField (k : String) (v : Json) (rest : List Char) :
    latin (quote k ++ ":" ++ compact v).toList ++ rest =
      '"' :: (latin (k.toList.flatMap escapeChar) ++
        '"' :: ':' :: (latin (compact v).toList ++ rest)) := by
  have hc : latin ":".toList = [':'] := rfl
  simp only [String.toList_append, latin_append, List.append_assoc, hc, latin_quote,
    List.cons_append, List.nil_append]

theorem starts_compact : ∀ {j : Json}, Plain j → Starts (latin (compact j).toList)
  | .null, h => by
    have hs := starts_prettyAt 0 h
    rwa [prettyAt, ← compact] at hs
  | .bool b, h => by
    have hs := starts_prettyAt 0 h
    rwa [prettyAt, ← compact] at hs
  | .number n, h => by
    have hs := starts_prettyAt 0 h
    rwa [prettyAt, ← compact] at hs
  | .string s, h => by
    have hs := starts_prettyAt 0 h
    rwa [prettyAt, ← compact] at hs
  | .array xs, _ => by
    rw [compact, latin_brackets]
    exact ⟨'[', _, rfl, rfl, by decide⟩
  | .object fs, _ => by
    rw [compact, latin_brackets]
    exact ⟨'{', _, rfl, rfl, by decide⟩

theorem starts_tight_items {x : Json} (h : Plain x) (xs : List Json) :
    Starts (tight "]" (compactItems (x :: xs))) := by
  cases xs with
  | nil =>
    rw [compactItems, compactItems, tight_singleton]
    exact (starts_compact h).append _
  | cons y ys =>
    rw [compactItems, compactItems, tight_cons_cons]
    exact (starts_compact h).append _

theorem tight_fields (k : String) (v : Json) (fs : List (String × Json)) :
    ∃ r, tight "\x7d" (compactFields ((k, v) :: fs)) = '"' :: r := by
  cases fs with
  | nil =>
    rw [compactFields, compactFields, tight_singleton, latin_tightField]
    exact ⟨_, rfl⟩
  | cons g gs =>
    rw [compactFields, compactFields, tight_cons_cons, latin_tightField]
    exact ⟨_, rfl⟩

mutual

/-- A plain document is read back from its text without white space. -/
theorem value?_compact : ∀ (j : Json) (fuel : Nat) (rest : List Char), Plain j → Breaks rest →
    (latin (compact j).toList).length ≤ fuel →
    value? (fuel + 1) (latin (compact j).toList ++ rest) = some (j, rest)
  | .null => by
    intro fuel rest _ _ _
    rw [compact]
    exact value?_null fuel rest
  | .bool b => by
    intro fuel rest _ _ _
    rw [compact]
    exact value?_bool fuel b rest
  | .number n => by
    intro fuel rest h hb _
    rw [compact]
    exact value?_number fuel h hb
  | .string s => by
    intro fuel rest _ _ _
    rw [compact]
    exact value?_string fuel s rest
  | .broken => fun _ _ h => h.elim
  | .array [] => by
    intro fuel rest _ _ _
    rw [compact, compactItems]
    exact value?_array_nil fuel rest
  | .array (x :: xs) => by
    intro fuel rest h _ hf
    have hs := (starts_tight_items h.1 xs).append rest
    have hl : latin "[".toList = ['['] := rfl
    rw [compact, latin_brackets, hl] at hf ⊢
    simp only [List.length_append, List.length_cons, List.length_nil] at hf
    have hi := items?_compact (x :: xs) fuel rest (by simp) h (by omega)
    rw [List.append_assoc, List.singleton_append, value?_array (by rw [hs.skip_eq]; exact hs), hs.skip_eq, hi]
    rfl
  | .object [] => by
    intro fuel rest _ _ _
    rw [compact, compactFields]
    exact value?_object_nil fuel rest
  | .object ((k, v) :: fs) => by
    intro fuel rest h _ hf
    obtain ⟨r, hr⟩ := tight_fields k v fs
    have hl : latin "\x7b".toList = ['{'] := rfl
    rw [compact, latin_brackets, hl] at hf ⊢
    simp only [List.length_append, List.length_cons, List.length_nil] at hf
    have hi := fields?_compact ((k, v) :: fs) fuel rest (by simp) h (by omega)
    rw [hr, List.cons_append] at hi
    rw [hr, List.append_assoc, List.singleton_append, List.cons_append,
      value?_object (skip_cons (by decide) _), hi, Option.map_some]
    dsimp only
    rw [objectOf_some]

/-- The items of an array are read back. -/
theorem items?_compact : ∀ (xs : List Json) (fuel : Nat) (rest : List Char), xs ≠ [] →
    PlainItems xs → (tight "]" (compactItems xs)).length + 1 ≤ fuel →
    items? fuel (tight "]" (compactItems xs) ++ rest) = some (xs, rest)
  | [] => fun _ _ h => absurd rfl h
  | [x] => by
    intro fuel rest _ h hf
    have hc : latin "]".toList = [']'] := rfl
    rw [compactItems, compactItems, tight_singleton, hc] at hf ⊢
    simp only [List.length_append, List.length_cons] at hf
    obtain ⟨f, rfl⟩ : ∃ f, fuel = f + 1 + 1 := ⟨fuel - 2, by omega⟩
    rw [List.append_assoc, List.singleton_append]
    exact items?_last (value?_compact x f _ h.1 (breaks_cons.mpr (by decide)) (by omega))
      (skip_cons (by decide) _)
  | x :: y :: ys => by
    intro fuel rest _ h hf
    rw [compactItems, compactItems, tight_cons_cons, ← compactItems] at hf ⊢
    simp only [List.length_append, List.length_cons] at hf
    obtain ⟨f, rfl⟩ : ∃ f, fuel = f + 1 + 1 := ⟨fuel - 2, by omega⟩
    have hr := items?_compact (y :: ys) (f + 1) rest (by simp) h.2 (by omega)
    rw [List.append_assoc, List.cons_append]
    exact items?_more (value?_compact x f _ h.1 (breaks_cons.mpr (by decide)) (by omega))
      (skip_cons (by decide) _) hr

/-- The fields of an object are read back. -/
theorem fields?_compact : ∀ (fs : List (String × Json)) (fuel : Nat) (rest : List Char), fs ≠ [] →
    PlainFields fs → (tight "\x7d" (compactFields fs)).length + 1 ≤ fuel →
    fields? fuel (tight "\x7d" (compactFields fs) ++ rest) =
      some (fs.map fun f => (some f.1, f.2), rest)
  | [] => fun _ _ h => absurd rfl h
  | [(k, v)] => by
    intro fuel rest _ h hf
    have hc : latin "\x7d".toList = ['}'] := rfl
    rw [compactFields, compactFields, tight_singleton, hc, latin_tightField] at hf ⊢
    simp only [List.length_append, List.length_cons] at hf
    obtain ⟨f, rfl⟩ : ∃ f, fuel = f + 1 + 1 := ⟨fuel - 2, by omega⟩
    simp only [List.cons_append, List.append_assoc]
    exact fields?_last (value?_compact v f ('}' :: rest) h.1 (breaks_cons.mpr (by decide)) (by omega))
      (skip_cons (by decide) _)
  | (k, v) :: (l, w) :: fs => by
    intro fuel rest _ h hf
    rw [compactFields, compactFields, tight_cons_cons, ← compactFields, latin_tightField] at hf ⊢
    simp only [List.length_append, List.length_cons] at hf
    obtain ⟨f, rfl⟩ : ∃ f, fuel = f + 1 + 1 := ⟨fuel - 2, by omega⟩
    have hr := fields?_compact ((l, w) :: fs) (f + 1) rest (by simp) h.2 (by omega)
    simp only [List.cons_append, List.append_assoc]
    exact fields?_more (value?_compact v f _ h.1 (breaks_cons.mpr (by decide)) (by omega))
      (skip_cons (by decide) _) hr

end

theorem parse?_compact {j : Json} (h : Plain j) : parse? j.compact = some j := by
  have hvalue := value?_compact j _ [] h breaks_nil le_rfl
  rw [List.append_nil] at hvalue
  exact ofBytes?_of_value? hvalue rfl

end SuiteBench.Json
