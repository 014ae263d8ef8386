import SuiteBench.Csv.Table
import SuiteBench.Proofs.Text.Utf8

/-!
# Proofs.Csv.RoundTrip — written tables read back

The scan takes a cell that needs no quotes byte after byte, and inside quotes everything but a quote,
which stands for itself when it is doubled.  A row that was written is therefore scanned as one record
with the bytes of its cells, and a table whose rows are as long as its header is read as it was
written.
-/

namespace SuiteBench.Csv

open Text.Utf8

/-- The bytes of some cells. -/
def textBytes (cells : List String) : List (List UInt8) := cells.map fun c => encode c.toList

/-- The bytes of some cells as they are written, with commas between them. -/
def rowBytes (cells : List String) : List UInt8 :=
  List.intercalate [44] (cells.map fun c => encode (writeCell c.toList))

theorem encode_intercalate (xs : List (List Char)) :
    encode (List.intercalate [','] xs) = List.intercalate [44] (xs.map encode) := by
  induction xs with
  | nil => rfl
  | cons x xs ih =>
    cases xs with
    | nil => simp
    | cons y ys =>
      rw [List.intercalate_cons_cons, encode_append, encode_append, ih]
      exact List.intercalate_cons_cons.symm

theorem encode_writeRow {r : List String} (hr : r ≠ [""]) :
    encode (writeRow r).toList = rowBytes r ++ [10] := by
  have hlines : (writeRow r).toList =
      List.intercalate [','] (r.map fun c => writeCell c.toList) ++ ['\n'] := by
    rw [writeRow, if_neg (by simpa using hr), String.toList_append, String.toList_intercalate,
      List.map_map]
    simp [Function.comp_def]
  rw [hlines, encode_append, encode_intercalate, rowBytes, List.map_map]
  simp [Function.comp_def, utf8EncodeChar_of_ascii]

theorem toList_writeRow_ne_nil (r : List String) : (writeRow r).toList ≠ [] := by
  rw [writeRow]
  split <;> simp

theorem write_cons (r : List String) (rs : List (List String)) :
    write (r :: rs) = writeRow r ++ write rs := by
  rw [← String.toList_inj]
  simp [write]

namespace Scan

/-- What a scan has come to: its mode, the field and the fields under way, and the records so far. -/
structure Sees (s : Scan) (m : Mode) (current : List UInt8) (fields : List (List UInt8))
    (records : List (List (List UInt8))) : Prop where
  mode : s.mode = m
  current : s.current = current
  fields : s.fields = fields
  records : s.records.map (·.fields) = records

variable {s : Scan} {m : Mode} {cur : List UInt8} {fs : List (List UInt8)}
  {recs : List (List (List UInt8))} {b : UInt8}

namespace Sees

/-- A byte that ends nothing is taken into the field. -/
theorem plain (h : s.Sees m cur fs recs) (hm : m = .recordStart ∨ m = .fieldStart ∨ m = .field)
    (hb : b ≠ 44 ∧ b ≠ 34 ∧ b ≠ 10 ∧ b ≠ 13) : (s.step none b).Sees .field (b :: cur) fs recs := by
  obtain ⟨hmode, rfl, rfl, rfl⟩ := h
  obtain ⟨h44, h34, h10, h13⟩ := hb
  rw [← beq_eq_false_iff_ne] at h44 h34 h10 h13
  rcases hm with rfl | rfl | rfl <;>
    simp only [step, hmode, between, opening, bare, h44, h34, h10, h13, Bool.or_self,
      Bool.false_eq_true, if_false, reduceCtorEq, beq_iff_eq] <;>
    exact ⟨rfl, rfl, rfl, rfl⟩

/-- A quote opens a quoted field. -/
theorem openQuote (h : s.Sees m cur fs recs) (hm : m = .recordStart ∨ m = .fieldStart) :
    (s.step none 34).Sees .quoted cur fs recs := by
  obtain ⟨hmode, rfl, rfl, rfl⟩ := h
  rcases hm with rfl | rfl <;> simp only [step, hmode] <;> exact ⟨rfl, rfl, rfl, rfl⟩

theorem inQuotes (h : s.Sees .quoted cur fs recs) (hb : b ≠ 34) :
    (s.step none b).Sees .quoted (b :: cur) fs recs := by
  obtain ⟨hmode, rfl, rfl, rfl⟩ := h
  simp only [step, hmode, beq_iff_eq, hb, if_false, take]
  exact ⟨rfl, rfl, rfl, rfl⟩

theorem closeQuote (h : s.Sees .quoted cur fs recs) :
    (s.step none 34).Sees .quoteInQuoted cur fs recs := by
  obtain ⟨hmode, rfl, rfl, rfl⟩ := h
  simp only [step, hmode]
  exact ⟨rfl, rfl, rfl, rfl⟩

/-- A second quote stands for itself. -/
theorem quoteAgain (h : s.Sees .quoteInQuoted cur fs recs) :
    (s.step none 34).Sees .quoted (34 :: cur) fs recs := by
  obtain ⟨hmode, rfl, rfl, rfl⟩ := h
  simp only [step, hmode]
  exact ⟨rfl, rfl, rfl, rfl⟩

/-- A comma ends the field, also an empty one. -/
theorem comma (h : s.Sees m cur fs recs)
    (hm : m = .recordStart ∨ m = .fieldStart ∨ m = .field ∨ m = .quoteInQuoted) :
    (s.step none 44).Sees .fieldStart [] (cur.reverse :: fs) recs := by
  obtain ⟨hmode, rfl, rfl, rfl⟩ := h
  rcases hm with rfl | rfl | rfl | rfl <;> simp only [step, hmode] <;> exact ⟨rfl, rfl, rfl, rfl⟩

/-- A line feed ends the record. -/
theorem lineFeed (h : s.Sees m cur fs recs)
    (hm : m = .fieldStart ∨ m = .field ∨ m = .quoteInQuoted) :
    (s.step none 10).Sees .recordStart [] [] ((cur.reverse :: fs).reverse :: recs) := by
  obtain ⟨hmode, rfl, rfl, rfl⟩ := h
  rcases hm with rfl | rfl | rfl <;> simp only [step, hmode] <;> exact ⟨rfl, rfl, rfl, rfl⟩

/-! ### Cells -/

theorem plains {bs : List UInt8} (hbs : ∀ b ∈ bs, b ≠ 44 ∧ b ≠ 34 ∧ b ≠ 10 ∧ b ≠ 13) {s : Scan}
    {cur : List UInt8} (h : s.Sees .field cur fs recs) :
    (bs.foldl (step none) s).Sees .field (bs.reverse ++ cur) fs recs := by
  induction bs generalizing s cur with
  | nil => exact h
  | cons b bs ih =>
    obtain ⟨hb, hbs⟩ := List.forall_mem_cons.mp hbs
    have hrest := ih hbs (h.plain (.inr (.inr rfl)) hb)
    rwa [List.reverse_cons, List.append_assoc]

theorem quoteds {bs : List UInt8} (hbs : ∀ b ∈ bs, b ≠ 34) {s : Scan} {cur : List UInt8}
    (h : s.Sees .quoted cur fs recs) :
    (bs.foldl (step none) s).Sees .quoted (bs.reverse ++ cur) fs recs := by
  induction bs generalizing s cur with
  | nil => exact h
  | cons b bs ih =>
    obtain ⟨hb, hbs⟩ := List.forall_mem_cons.mp hbs
    have hrest := ih hbs (h.inQuotes hb)
    rwa [List.reverse_cons, List.append_assoc]

/-- What is written between quotes is taken as the text, whatever it holds. -/
theorem doubledText (cs : List Char) {s : Scan} {cur : List UInt8} (h : s.Sees .quoted cur fs recs) :
    ((encode (doubled cs)).foldl (step none) s).Sees .quoted ((encode cs).reverse ++ cur) fs recs := by
  induction cs generalizing s cur with
  | nil => exact h
  | cons c cs ih =>
    by_cases hc : c = '"'
    · subst hc
      have hrest := ih h.closeQuote.quoteAgain
      simpa [doubled, utf8EncodeChar_of_ascii, List.append_assoc] using hrest
    · have hbytes : ∀ b ∈ String.utf8EncodeChar c, b ≠ 34 := fun b hb =>
        ne_of_mem_utf8EncodeChar (a := '"') (by decide) hc hb
      have hrest := ih (h.quoteds hbytes)
      rw [doubled, if_neg (by simpa using hc), encode_cons, List.foldl_append, encode_cons,
        List.reverse_append, List.append_assoc]
      exact hrest

/-- A cell is taken as its text; only of an empty one nothing is seen. -/
theorem cell (cs : List Char) (h : s.Sees m [] fs recs) (hm : m = .recordStart ∨ m = .fieldStart) :
    ∃ m', ((encode (writeCell cs)).foldl (step none) s).Sees m' (encode cs).reverse fs recs ∧
      (m' = .field ∨ m' = .quoteInQuoted ∨ cs = [] ∧ m' = m) := by
  rw [writeCell]
  split
  · refine ⟨.quoteInQuoted, ?_, .inr (.inl rfl)⟩
    have htext := ((h.openQuote hm).doubledText cs).closeQuote
    rw [List.append_nil] at htext
    simpa [utf8EncodeChar_of_ascii, List.foldl_append] using htext
  · next hq =>
    have hplain : ∀ c ∈ cs, c ≠ ',' ∧ c ≠ '"' ∧ c ≠ '\n' ∧ c ≠ '\r' := by
      simpa [needsQuotes, and_assoc] using hq
    have hbytes : ∀ b ∈ encode cs, b ≠ 44 ∧ b ≠ 34 ∧ b ≠ 10 ∧ b ≠ 13 := by
      intro b hb
      obtain ⟨c, hc, hb⟩ := List.mem_flatMap.mp hb
      obtain ⟨h44, h34, h10, h13⟩ := hplain c hc
      exact ⟨ne_of_mem_utf8EncodeChar (a := ',') (by decide) h44 hb,
        ne_of_mem_utf8EncodeChar (a := '"') (by decide) h34 hb,
        ne_of_mem_utf8EncodeChar (a := '\n') (by decide) h10 hb,
        ne_of_mem_utf8EncodeChar (a := '\r') (by decide) h13 hb⟩
    cases cs with
    | nil => exact ⟨m, h, .inr (.inr ⟨rfl, rfl⟩)⟩
    | cons c cs =>
      cases hbs : encode (c :: cs) with
      | nil => exact absurd hbs (encode_ne_nil (by simp))
      | cons b bs =>
        rw [hbs] at hbytes
        obtain ⟨hb, hbs⟩ := List.forall_mem_cons.mp hbytes
        have hfirst := h.plain (hm.imp_right .inl) hb
        exact ⟨.field, by simpa using hfirst.plains hbs, .inl rfl⟩

/-! ### Rows -/

/-- Behind a comma the rest of a row is taken cell after cell. -/
theorem cells {c : String} (rest : List String) {s : Scan} {fs : List (List UInt8)}
    (h : s.Sees .fieldStart [] fs recs) :
    (((rowBytes (c :: rest)) ++ [10]).foldl (step none) s).Sees .recordStart [] []
      ((fs.reverse ++ textBytes (c :: rest)) :: recs) := by
  induction rest generalizing c s fs with
  | nil =>
    obtain ⟨m', hcell, hm'⟩ := h.cell c.toList (.inr rfl)
    have hend := hcell.lineFeed (by
      rcases hm' with rfl | rfl | ⟨-, rfl⟩
      · exact .inr (.inl rfl)
      · exact .inr (.inr rfl)
      · exact .inl rfl)
    simpa [rowBytes, textBytes, List.foldl_append] using hend
  | cons c' rest ih =>
    obtain ⟨m', hcell, hm'⟩ := h.cell c.toList (.inr rfl)
    have hcomma := hcell.comma (by
      rcases hm' with rfl | rfl | ⟨-, rfl⟩
      · exact .inr (.inr (.inl rfl))
      · exact .inr (.inr (.inr rfl))
      · exact .inr (.inl rfl))
    have hrest := ih (c := c') hcomma
    simpa [rowBytes, textBytes, List.intercalate_cons_cons, List.foldl_append] using hrest

/-- A row is taken as one record. -/
theorem row {r : List String} (hr : r ≠ []) (h : s.Sees .recordStart [] [] recs) :
    ((encode (writeRow r).toList).foldl (step none) s).Sees .recordStart [] []
      (textBytes r :: recs) := by
  by_cases hblank : r = [""]
  · subst hblank
    have hend := (h.openQuote (.inl rfl)).closeQuote.lineFeed (.inr (.inr rfl))
    simpa [writeRow, textBytes, utf8EncodeChar_of_ascii] using hend
  rw [encode_writeRow hblank]
  match r, hr with
  | [c], _ =>
    obtain ⟨m', hcell, hm'⟩ := h.cell c.toList (.inl rfl)
    have hend := hcell.lineFeed (by
      rcases hm' with rfl | rfl | ⟨hc, -⟩
      · exact .inr (.inl rfl)
      · exact .inr (.inr rfl)
      · exact absurd (by rw [String.toList_eq_nil_iff.mp hc]) hblank)
    simpa [rowBytes, textBytes, List.foldl_append] using hend
  | c :: c' :: rest, _ =>
    obtain ⟨m', hcell, hm'⟩ := h.cell c.toList (.inl rfl)
    have hcomma := hcell.comma (by
      rcases hm' with rfl | rfl | ⟨-, rfl⟩
      · exact .inr (.inr (.inl rfl))
      · exact .inr (.inr (.inr rfl))
      · exact .inl rfl)
    have hrest := hcomma.cells (c := c') rest
    simpa [rowBytes, textBytes, List.intercalate_cons_cons, List.foldl_append] using hrest

/-- Rows are taken as their records. -/
theorem rows {rs : List (List String)} (hrs : ∀ r ∈ rs, r ≠ []) {s : Scan}
    {recs : List (List (List UInt8))} (h : s.Sees .recordStart [] [] recs) :
    ((encode (write rs).toList).foldl (step none) s).Sees .recordStart [] []
      ((rs.map textBytes).reverse ++ recs) := by
  induction rs generalizing s recs with
  | nil => exact h
  | cons r rs ih =>
    obtain ⟨hr, hrs⟩ := List.forall_mem_cons.mp hrs
    have hrest := ih hrs (h.row hr)
    rw [write_cons, String.toList_append, encode_append, List.foldl_append, List.map_cons,
      List.reverse_cons, List.append_assoc]
    exact hrest

end Sees

end Scan

/-! ### Tables -/

/-- The character that readers pass over at the start of a table. -/
def byteOrderMark : Char := Char.ofNat 0xFEFF

/-- Whether the first cell of a header starts with a byte order mark. -/
def Marked (h : List String) : Prop := (h.headD "").toList.head? = some byteOrderMark

/-- Only a byte order mark has its bytes. -/
theorem encode_ne_mark {x : Char} (hx : x ≠ byteOrderMark) (xs : List Char) (rest : List UInt8) :
    encode (x :: xs) ≠ 0xEF :: 0xBB :: 0xBF :: rest := by
  intro he
  obtain ⟨b, bs, hbytes, hunit⟩ := firstUnit_encode x
  rw [encode_cons, hbytes, List.cons_append] at he
  obtain ⟨rfl, hbs⟩ := List.cons.inj he
  have hpromise : promise 0xEF = some (2, 0x80, 0xBF) := by decide
  have hlast : ∀ y ∈ [(0xBF : UInt8)], 128 ≤ y.toNat ∧ y.toNat ≤ 191 := by simp
  have hmark : firstUnit 0xEF (0xBB :: [0xBF] ++ rest) = (some byteOrderMark, 2) :=
    firstUnit_of_promise hpromise (by decide) (by decide) hlast
  have hfirst := hunit (encode xs)
  rw [hbs] at hfirst
  exact hx (Option.some.inj (congrArg Prod.fst (hfirst.symm.trans hmark)))

theorem head?_writeCell {cs : List Char} {x : Char} (h : (writeCell cs).head? = some x) :
    x = '"' ∨ cs.head? = some x := by
  rw [writeCell] at h
  split at h
  · exact .inl (Option.some.inj h).symm
  · exact .inr h

/-- A row starts with a byte order mark only if its first cell does. -/
theorem marked_of_writeRow {h : List String} (hm : (writeRow h).toList.head? = some byteOrderMark) :
    Marked h := by
  have hquote : byteOrderMark ≠ '"' ∧ byteOrderMark ≠ ',' ∧ byteOrderMark ≠ '\n' := by decide
  by_cases hblank : h = [""]
  · subst hblank
    exact absurd (Option.some.inj hm).symm hquote.1
  have hcell : ∀ {c : String} {rest : List Char}, rest.head? ≠ some byteOrderMark →
      (writeCell c.toList ++ rest).head? = some byteOrderMark →
        c.toList.head? = some byteOrderMark := fun {c rest} hrest hc => by
    cases hw : writeCell c.toList with
    | nil =>
      rw [hw] at hc
      exact absurd hc hrest
    | cons y ys =>
      rw [hw, List.cons_append, List.head?_cons] at hc
      have hhead : (writeCell c.toList).head? = some byteOrderMark := by rw [hw, List.head?_cons, hc]
      exact (head?_writeCell hhead).resolve_left hquote.1
  rw [writeRow, if_neg (by simpa using hblank), String.toList_append, String.toList_intercalate,
    List.map_map] at hm
  match h with
  | [] => exact absurd (Option.some.inj hm).symm hquote.2.2
  | [c] =>
    have hend : "\n".toList.head? ≠ some byteOrderMark := by simpa using hquote.2.2.symm
    exact hcell hend (by simpa using hm)
  | c :: c' :: rest =>
    have hcomma : ∀ more : List Char, (',' :: more).head? ≠ some byteOrderMark := fun more he =>
      hquote.2.1 (Option.some.inj he).symm
    rw [List.map_cons, List.map_cons, List.intercalate_cons_cons, List.append_assoc,
      List.append_assoc, Function.comp_apply, String.toList_ofList] at hm
    exact hcell (hcomma _) hm

/-- Rows behind which no byte order mark could be meant are scanned as they were written. -/
theorem scan_write {h : List String} {rs : List (List String)} (hrs : ∀ r ∈ h :: rs, r ≠ [])
    (hmark : ¬ Marked h) :
    (scan none (write (h :: rs)).toUTF8.data.toList).map (·.fields) =
      (h :: rs).map textBytes := by
  have hstart : (Scan.initial 0).Sees .recordStart [] [] [] := ⟨rfl, rfl, rfl, rfl⟩
  have hrows := hstart.rows hrs
  have hnone : ∀ rest, encode (write (h :: rs)).toList ≠ 0xEF :: 0xBB :: 0xBF :: rest := by
    intro rest
    rw [write_cons, String.toList_append]
    cases hrow : (writeRow h).toList with
    | nil => exact absurd hrow (toList_writeRow_ne_nil h)
    | cons x xs =>
      rw [List.cons_append]
      exact encode_ne_mark (fun hx => hmark (marked_of_writeRow (by rw [hrow, hx]; rfl))) _ rest
  have hscan : scan none (encode (write (h :: rs)).toList) =
      ((encode (write (h :: rs)).toList).foldl (Scan.step none) (.initial 0)).finish := by
    rw [scan]
    exact hnone
  rw [toList_toUTF8, hscan, Scan.finish, hrows.mode]
  dsimp only
  rw [List.map_reverse, hrows.records, List.append_nil, List.reverse_reverse]

theorem texts_textBytes (p : Position) (cells : List String) :
    texts p (textBytes cells) = .ok (cells.map String.toList) := by
  rw [texts]
  generalize 0 = i
  induction cells generalizing i with
  | nil => rfl
  | cons c cells ih =>
    rw [show textBytes (c :: cells) = encode c.toList :: textBytes cells from rfl, List.zipIdx_cons,
      List.mapM_cons, ih]
    simp only [decode_encode]
    rfl

theorem cell_toList (cells : List String) : (cells.map String.toList).map (cell false) = cells := by
  rw [List.map_map]
  exact (List.map_congr_left fun c _ => by simp [cell]).trans (List.map_id cells)

/-- A record with the bytes of some cells is the row of these cells. -/
theorem row_textBytes {o : Options} (ht : o.trims = false) {width : Nat} {r : RawRecord}
    {cells : List String} (hr : r.fields = textBytes cells) (hw : cells.length = width) :
    (o.row width r).map Row.cells = .ok cells := by
  have hlength : r.fields.length = width := by rw [hr, textBytes, List.length_map, hw]
  rw [Options.row, ht, hlength, hr, bne_self_eq_false, Bool.and_false, if_neg (by simp),
    if_neg (by simp)]
  simp only [texts_textBytes]
  exact congrArg Except.ok (cell_toList cells)

/-- A table whose rows are as long as its header is read as it was written. -/
theorem read_write {o : Options} (hc : o.comment = none) (ht : o.trims = false) {h : List String}
    {rs : List (List String)} (hne : h ≠ []) (hrs : ∀ r ∈ rs, r.length = h.length)
    (hmark : ¬ Marked h) :
    (o.read (write (h :: rs)).toUTF8).header = .ok h ∧
      (o.read (write (h :: rs)).toUTF8).rows.map (·.map Row.cells) = rs.map .ok := by
  have hall : ∀ r ∈ h :: rs, r ≠ [] := by
    intro r hr
    rcases List.mem_cons.mp hr with rfl | hr
    · exact hne
    · exact List.ne_nil_of_length_pos (hrs r hr ▸ List.length_pos_iff.mpr hne)
  have hscan := scan_write hall hmark
  rw [Options.read, hc]
  cases hs : scan none (write (h :: rs)).toUTF8.data.toList with
  | nil =>
    rw [hs] at hscan
    cases hscan
  | cons x xs =>
    rw [hs, List.map_cons, List.map_cons] at hscan
    obtain ⟨hx, hxs⟩ := List.cons.inj hscan
    have hwidth : x.fields.length = h.length := by rw [hx, textBytes, List.length_map]
    refine ⟨?_, ?_⟩
    · dsimp only
      rw [hx, texts_textBytes, ht]
      exact congrArg Except.ok (cell_toList h)
    · dsimp only
      rw [hwidth]
      clear hs hscan hall
      induction xs generalizing rs with
      | nil =>
        cases rs with
        | nil => rfl
        | cons r rs => cases hxs
      | cons y ys ih =>
        cases rs with
        | nil => cases hxs
        | cons r rs =>
          obtain ⟨hy, hys⟩ := List.cons.inj hxs
          obtain ⟨hr, hrs⟩ := List.forall_mem_cons.mp hrs
          rw [List.map_cons, List.map_cons, row_textBytes ht hy hr, ih hrs hys, List.map_cons]

theorem length_of_mapM {α β ε : Type} {f : α → Except ε β} :
    ∀ {l : List α} {bs : List β}, l.mapM f = .ok bs → bs.length = l.length
  | [], bs, h => by
    cases h
    rfl
  | a :: l, bs, h => by
    rw [List.mapM_cons] at h
    cases ha : f a with
    | error e => simp [ha, bind, Except.bind] at h
    | ok b =>
      cases hl : l.mapM f with
      | error e => simp [ha, hl, bind, Except.bind] at h
      | ok bs' =>
        simp only [ha, hl, bind, Except.bind, pure, Except.pure, Except.ok.injEq] at h
        rw [← h, List.length_cons, length_of_mapM hl, List.length_cons]

/-- Where rows may not differ in length, a row that is read is as long as the header. -/
theorem length_of_read {o : Options} (hf : o.flexible = false) {bytes : ByteArray}
    {header : List String} {row : Row} (hh : (o.read bytes).header = .ok header)
    (hr : .ok row ∈ (o.read bytes).rows) : row.cells.length = header.length := by
  rw [Options.read] at hh hr
  split at hh
  · next hs =>
    rw [hs] at hr
    cases hr
  · next h rest hs =>
    rw [hs] at hr
    obtain ⟨r, -, hrow⟩ := List.mem_map.mp hr
    have hheader : header.length = h.fields.length := by
      cases ht : texts h.position h.fields with
      | error e => simp [ht, Except.map] at hh
      | ok cs =>
        simp only [ht, Except.map, Except.ok.injEq] at hh
        rw [← hh, List.length_map, length_of_mapM ht, List.length_zipIdx]
    rw [Options.row, hf] at hrow
    split at hrow
    · cases hrow
    · next hlen =>
      have hwidth : r.fields.length = h.fields.length := by simpa using hlen
      simp only [bind, Except.bind, pure, Except.pure] at hrow
      split at hrow
      · cases hrow
      · next cs ht =>
        cases hrow
        have := length_of_mapM ht
        rw [List.length_zipIdx] at this
        rw [List.length_map, this, hheader, ← hwidth]
        split <;> simp

end SuiteBench.Csv
