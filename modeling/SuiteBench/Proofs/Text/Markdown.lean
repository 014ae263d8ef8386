import Mathlib.Data.List.DropRight
import SuiteBench.Proofs.Text.Parts

/-!
# Proofs.Text.Markdown — tables as a reader of Markdown takes them

The lines of a document end at a line feed, at a carriage return or at the two together.  The table of
a section is a line of heads, a rule of as many cells and rows up to a blank line.  A line is cut into
cells at its bars; a bar directly behind a backslash is text, and the blanks around a cell do not count.

Text is read back from a cell just where it has no line end, no bar that ends the cell and no blank at
either end, and no cell that is read has a line end or such a bar.
-/

namespace SuiteBench.Markdown

/-! ### Reading -/

/-- The text with a single line feed for each line end. -/
def feeds : List Char → List Char
  | [] => []
  | c :: cs =>
    if c == '\r' then (if cs.head? == some '\n' then feeds cs else '\n' :: feeds cs)
    else c :: feeds cs

/-- The lines of a document. -/
def lines (cs : List Char) : List (List Char) := Text.splitOnP (· == '\n') (feeds cs)

/-- The blanks that may stand around a cell. -/
def isGap (c : Char) : Bool := c == ' ' || c == '\t'

/-- A cell without the blanks around it. -/
def trimGaps (cs : List Char) : List Char := (cs.dropWhile isGap).rdropWhile isGap

/-- Whether a line is blank. -/
def isBlankLine (line : List Char) : Bool := line.all isGap

/-- The pieces of a line between its bars; a bar is text if it is `escaped` by a backslash right in front
of it. -/
def splitBars : Bool → List Char → List (List Char)
  | _, [] => [[]]
  | escaped, c :: cs =>
    if c == '|' && !escaped then [] :: splitBars false cs
    else match splitBars (c == '\\') cs with
      | [] => [[c]]
      | piece :: pieces => (c :: piece) :: pieces

/-- The pieces without an empty one at either end. -/
def inner (pieces : List (List Char)) : List (List Char) :=
  let pieces := if pieces.head? = some [] then pieces.tail else pieces
  if pieces.getLast? = some [] then pieces.dropLast else pieces

/-- The cells of a line; the bars at its ends may be left out. -/
def cells (line : List Char) : List String :=
  (inner ((splitBars false line).map trimGaps)).map String.ofList

/-- Whether a cell is a dash or more, with or without a colon at either end. -/
def isRule (cell : String) : Bool :=
  let cs := (Text.stripFront? [':'] cell.toList).getD cell.toList
  let dashes := if cs.getLast? == some ':' then cs.dropLast else cs
  !dashes.isEmpty && dashes.all (· == '-')

/-- A table as it is read. -/
structure Table where
  heads : List String
  rows : List (List String)
  deriving DecidableEq, Repr

/-- The table that lines start with: heads, a rule of as many cells, and rows up to a blank line. -/
def table? : List (List Char) → Option Table
  | heads :: rule :: rest =>
    if (cells rule).all isRule && (cells rule).length == (cells heads).length then
      some ⟨cells heads, (rest.takeWhile fun l => !isBlankLine l).map cells⟩
    else none
  | _ => none

/-- The table of a section, which may stand behind blank lines under the section's heading. -/
def tableUnder? (heading doc : String) : Option Table :=
  table? (((lines doc.toList).dropWhile (· != heading.toList)).tail.dropWhile isBlankLine)

/-! ### Lines -/

/-- Whether no line ends within a text. -/
def Unbroken (cs : List Char) : Prop := ∀ c ∈ cs, c ≠ '\n' ∧ c ≠ '\r'

instance (cs : List Char) : Decidable (Unbroken cs) :=
  List.decidableBAll (fun c => c ≠ '\n' ∧ c ≠ '\r') cs

variable {cs l line rest : List Char} {ls : List (List Char)}

theorem feeds_append (h : Unbroken l) : feeds (l ++ '\n' :: rest) = l ++ '\n' :: feeds rest := by
  induction l with
  | nil => simp [feeds]
  | cons c l ih =>
    obtain ⟨⟨-, hc⟩, hl⟩ := List.forall_mem_cons.mp h
    rw [List.cons_append, feeds, if_neg (by simpa using hc), ih hl]
    rfl

theorem ne_return_of_mem_feeds : ∀ c ∈ feeds cs, c ≠ '\r' := by
  induction cs with
  | nil => simp [feeds]
  | cons a cs ih =>
    rw [feeds]
    split
    · split
      · exact ih
      · exact List.forall_mem_cons.mpr ⟨by decide, ih⟩
    · next ha => exact List.forall_mem_cons.mpr ⟨by simpa using ha, ih⟩

theorem lines_append (h : Unbroken l) : lines (l ++ '\n' :: rest) = l :: lines rest := by
  have hfeed : ∀ c ∈ l, (c == '\n') = false := fun c hc => beq_false_of_ne (h c hc).1
  rw [lines, feeds_append h, Text.splitOnP_append hfeed (beq_self_eq_true '\n')]
  rfl

theorem lines_flatMap (h : ∀ l ∈ ls, Unbroken l) :
    lines (ls.flatMap (· ++ ['\n']) ++ rest) = ls ++ lines rest := by
  induction ls with
  | nil => rfl
  | cons l ls ih =>
    obtain ⟨hl, hls⟩ := List.forall_mem_cons.mp h
    rw [List.flatMap_cons, List.append_assoc, List.append_assoc, List.singleton_append,
      lines_append hl, ih hls, List.cons_append]

theorem unbroken_of_mem_lines (h : l ∈ lines cs) : Unbroken l := fun c hc =>
  ⟨ne_of_beq_false (Text.notSep_of_mem_splitOnP l h c hc),
    ne_return_of_mem_feeds c (Text.mem_of_mem_splitOnP l h c hc)⟩

/-! ### Text that keeps within its cell -/

/-- Whether text has no line end, and a bar only where it is `escaped`. -/
def fits : Bool → List Char → Bool
  | _, [] => true
  | escaped, c :: cs =>
    c != '\n' && c != '\r' && (c != '|' || escaped) && fits (c == '\\') cs

/-- Whether a text keeps within its cell: it has no line end, and each bar is directly behind a
backslash. -/
def FitsCell (s : String) : Prop := fits false s.toList = true

instance (s : String) : Decidable (FitsCell s) :=
  inferInstanceAs (Decidable (fits false s.toList = true))

variable {c c' : List Char} {escaped : Bool}

theorem fits_cons {x : Char} : fits escaped (x :: c) = true ↔
    (x ≠ '\n' ∧ x ≠ '\r') ∧ (x = '|' → escaped = true) ∧ fits (x == '\\') c = true := by
  simp only [fits, Bool.and_eq_true, bne_iff_ne, Bool.or_eq_true, and_assoc]
  refine and_congr_right fun _ => and_congr_right fun _ => and_congr_left fun _ => ?_
  exact or_iff_not_imp_left.trans (by rw [not_not])

theorem unbroken_of_fits (h : fits escaped c = true) : Unbroken c := by
  induction c generalizing escaped with
  | nil => exact fun x hx => absurd hx List.not_mem_nil
  | cons x c ih =>
    obtain ⟨hx, -, hc⟩ := fits_cons.mp h
    exact List.forall_mem_cons.mpr ⟨hx, ih hc⟩

theorem fits_of_append (h : fits escaped (c ++ c') = true) : fits escaped c = true := by
  induction c generalizing escaped with
  | nil => rfl
  | cons x c ih =>
    obtain ⟨hx, hbar, hc⟩ := fits_cons.mp h
    exact fits_cons.mpr ⟨hx, hbar, ih hc⟩

theorem fits_of_barless (h : ∀ x ∈ c, x ≠ '\n' ∧ x ≠ '\r' ∧ x ≠ '|') : fits escaped c = true := by
  induction c generalizing escaped with
  | nil => rfl
  | cons x c ih =>
    obtain ⟨⟨hfeed, hreturn, hbar⟩, hc⟩ := List.forall_mem_cons.mp h
    exact fits_cons.mpr ⟨⟨hfeed, hreturn⟩, fun hx => absurd hx hbar, ih hc⟩

theorem fits_append_singleton {x : Char} (hx : x ≠ '\n' ∧ x ≠ '\r' ∧ x ≠ '|') :
    fits escaped (c ++ [x]) = fits escaped c := by
  induction c generalizing escaped with
  | nil => simp [fits, hx]
  | cons y c ih => rw [List.cons_append, fits, fits, ih]

theorem fits_dropWhile (h : fits false c = true) : fits false (c.dropWhile isGap) = true := by
  induction c with
  | nil => exact h
  | cons x c ih =>
    rw [List.dropWhile_cons]
    split
    · next hx =>
      -- a blank is no backslash
      have hback : (x == '\\') = false := by
        rcases (by simpa [isGap] using hx : x = ' ' ∨ x = '\t') with rfl | rfl <;> rfl
      refine ih ?_
      rw [← hback]
      exact (fits_cons.mp h).2.2
    · exact h

theorem fits_trimGaps (h : fits false c = true) : fits false (trimGaps c) = true := by
  obtain ⟨back, hback⟩ := List.rdropWhile_prefix isGap (l := c.dropWhile isGap)
  have hwhole : fits false (trimGaps c ++ back) = true := by
    rw [trimGaps, hback]
    exact fits_dropWhile h
  exact fits_of_append hwhole

/-! ### Cells -/

theorem splitBars_append (h : fits escaped c = true) :
    splitBars escaped (c ++ ' ' :: '|' :: rest) = (c ++ [' ']) :: splitBars false rest := by
  induction c generalizing escaped with
  | nil => rfl
  | cons x c ih =>
    obtain ⟨-, hbar, hc⟩ := fits_cons.mp h
    have htext : (x == '|' && !escaped) = false := by
      cases escaped with
      | true => rw [Bool.not_true, Bool.and_false]
      | false => rw [beq_false_of_ne fun hx => Bool.false_ne_true (hbar hx), Bool.false_and]
    rw [List.cons_append, splitBars, htext, ih hc]
    rfl

/-- Every piece between two bars fits a cell. -/
theorem fits_of_splitBars {piece : List Char} {pieces : List (List Char)} (hline : Unbroken line)
    (h : splitBars escaped line = piece :: pieces) :
    fits escaped piece = true ∧ ∀ p ∈ pieces, fits false p = true := by
  induction line generalizing escaped piece pieces with
  | nil =>
    cases h
    exact ⟨rfl, fun p hp => absurd hp List.not_mem_nil⟩
  | cons x line ih =>
    obtain ⟨hx, hline⟩ := List.forall_mem_cons.mp hline
    rw [splitBars] at h
    split at h
    · -- a bar: what follows it starts a cell
      cases h
      refine ⟨rfl, fun p hp => ?_⟩
      obtain ⟨first, others, heq⟩ := List.exists_cons_of_ne_nil (List.ne_nil_of_mem hp)
      have hpieces := List.forall_mem_cons (p := (fits false · = true)).mpr (ih hline heq)
      exact hpieces p (heq ▸ hp)
    · next htext =>
      have hbar : x = '|' → escaped = true := by simpa using htext
      split at h
      · cases h
        exact ⟨fits_cons.mpr ⟨hx, hbar, rfl⟩, fun p hp => absurd hp List.not_mem_nil⟩
      · next first others heq =>
        cases h
        obtain ⟨hfirst, hothers⟩ := ih hline heq
        exact ⟨fits_cons.mpr ⟨hx, hbar, hfirst⟩, hothers⟩

theorem fits_of_mem_splitBars {piece : List Char} (hline : Unbroken line)
    (h : piece ∈ splitBars false line) : fits false piece = true := by
  obtain ⟨first, others, heq⟩ := List.exists_cons_of_ne_nil (List.ne_nil_of_mem h)
  have hpieces := List.forall_mem_cons (p := (fits false · = true)).mpr (fits_of_splitBars hline heq)
  exact hpieces piece (heq ▸ h)

theorem mem_of_mem_inner {piece : List Char} {pieces : List (List Char)} (h : piece ∈ inner pieces) :
    piece ∈ pieces := by
  simp only [inner] at h
  split at h
  · split at h
    · exact List.mem_of_mem_tail (List.dropLast_subset _ h)
    · exact List.mem_of_mem_tail h
  · split at h
    · exact List.dropLast_subset _ h
    · exact h

/-- What is read from a cell fits a cell. -/
theorem fitsCell_of_mem_cells {s : String} (hline : Unbroken line) (h : s ∈ cells line) :
    FitsCell s := by
  obtain ⟨piece, hpiece, rfl⟩ := List.mem_map.mp h
  obtain ⟨raw, hraw, rfl⟩ := List.mem_map.mp (mem_of_mem_inner hpiece)
  rw [FitsCell, String.toList_ofList]
  exact fits_trimGaps (fits_of_mem_splitBars hline hraw)

theorem fitsCell_of_table? {t : Table} (hls : ∀ l ∈ ls, Unbroken l) (h : table? ls = some t) :
    ∀ row ∈ t.rows, ∀ s ∈ row, FitsCell s := by
  rcases ls with _ | ⟨heads, _ | ⟨rule, rest⟩⟩
  · cases h
  · cases h
  · rw [table?] at h
    split at h
    · cases h
      intro row hrow s hs
      obtain ⟨l, hl, rfl⟩ := List.mem_map.mp hrow
      have hrest := List.takeWhile_subset _ hl
      exact fitsCell_of_mem_cells (hls l (by simp [hrest])) hs
    · cases h

theorem fitsCell_of_tableUnder? {heading doc : String} {t : Table}
    (h : tableUnder? heading doc = some t) : ∀ row ∈ t.rows, ∀ s ∈ row, FitsCell s := by
  refine fitsCell_of_table? (fun l hl => ?_) h
  have hmem : l ∈ lines doc.toList :=
    List.dropWhile_subset _ (List.mem_of_mem_tail (List.dropWhile_subset _ hl))
  exact unbroken_of_mem_lines hmem

/-! ### Tables read back -/

/-- Whether a text is read back from its cell. -/
structure IsCell (s : String) : Prop where
  fits : FitsCell s
  front : s.toList.dropWhile isGap = s.toList
  back : s.toList.rdropWhile isGap = s.toList

instance (s : String) : Decidable (IsCell s) :=
  decidable_of_iff
    (FitsCell s ∧ s.toList.dropWhile isGap = s.toList ∧ s.toList.rdropWhile isGap = s.toList)
    ⟨fun h => ⟨h.1, h.2.1, h.2.2⟩, fun h => ⟨h.fits, h.front, h.back⟩⟩

theorem trimGaps_padded {s : String} (h : IsCell s) :
    trimGaps (' ' :: s.toList ++ [' ']) = s.toList := by
  have hfront : (' ' :: s.toList ++ [' ']).dropWhile isGap =
      if s.toList.isEmpty then [] else s.toList ++ [' '] := by
    rw [List.cons_append, List.dropWhile_cons_of_pos (by rfl), List.dropWhile_append, h.front]
    rfl
  rw [trimGaps, hfront]
  split
  · next hnil => rw [List.isEmpty_iff.mp hnil, List.rdropWhile_nil]
  · rw [List.rdropWhile_concat_pos _ _ _ (by rfl), h.back]

/-- A line of cells between bars. -/
def barred (row : List String) : List Char :=
  '|' :: row.flatMap fun s => ' ' :: s.toList ++ [' ', '|']

variable {row heads : List String} {rows : List (List String)}

theorem splitBars_flatMap (h : ∀ s ∈ row, IsCell s) :
    splitBars false (row.flatMap fun s => ' ' :: s.toList ++ [' ', '|']) =
      row.map (fun s => ' ' :: s.toList ++ [' ']) ++ [[]] := by
  induction row with
  | nil => rfl
  | cons s row ih =>
    obtain ⟨hs, hrow⟩ := List.forall_mem_cons.mp h
    have hfits : fits false (' ' :: s.toList) = true :=
      fits_cons.mpr ⟨by decide, nofun, hs.fits⟩
    rw [List.flatMap_cons, List.append_assoc]
    exact (splitBars_append hfits).trans (congrArg _ (ih hrow))

theorem cells_barred (h : ∀ s ∈ row, IsCell s) : cells (barred row) = row := by
  have hpieces : (splitBars false (barred row)).map trimGaps = [] :: row.map String.toList ++ [[]] := by
    have hcells := List.map_congr_left fun s hs => trimGaps_padded (h s hs)
    rw [barred, splitBars, if_pos (by decide), splitBars_flatMap h, List.map_cons, List.map_append,
      ← hcells, List.map_map]
    rfl
  have hinner : inner ([] :: row.map String.toList ++ [[]]) = row.map String.toList := by
    simp [inner]
  rw [cells, hpieces, hinner, List.map_map]
  simp

theorem unbroken_barred (h : ∀ s ∈ row, Unbroken s.toList) : Unbroken (barred row) := by
  intro x hx
  simp only [barred, List.mem_cons, List.mem_flatMap, List.mem_append, List.not_mem_nil,
    or_false] at hx
  rcases hx with rfl | ⟨s, hs, (rfl | hx) | rfl | rfl⟩
  · decide
  · decide
  · exact h s hs x hx
  · decide
  · decide

/-- A table between empty lines under its heading is read as it stands. -/
theorem tableUnder?_eq {heading doc : String} {before : List (List Char)} {rule : List Char}
    (hdoc : doc.toList = (before ++ heading.toList :: [] :: barred heads :: rule ::
      (rows.map barred ++ [[]])).flatMap (· ++ ['\n']) ++ rest)
    (hbefore : ∀ l ∈ before, Unbroken l ∧ l ≠ heading.toList) (hheading : Unbroken heading.toList)
    (hrule : Unbroken rule) (hdashes : (cells rule).all isRule = true)
    (hwidth : (cells rule).length = heads.length) (hheads : ∀ s ∈ heads, IsCell s)
    (hrows : ∀ row ∈ rows, ∀ s ∈ row, IsCell s) :
    tableUnder? heading doc = some ⟨heads, rows⟩ := by
  have hcells {row : List String} (h : ∀ s ∈ row, IsCell s) : Unbroken (barred row) :=
    unbroken_barred fun s hs => unbroken_of_fits (h s hs).fits
  have hlines : lines doc.toList = (before ++ heading.toList :: [] :: barred heads :: rule ::
      (rows.map barred ++ [[]])) ++ lines rest := by
    rw [hdoc]
    refine lines_flatMap ?_
    simp only [List.forall_mem_append, List.forall_mem_cons, List.forall_mem_map]
    exact ⟨fun l hl => (hbefore l hl).1, hheading, by decide, hcells hheads, hrule,
      fun row hrow => hcells (hrows row hrow), by decide, by simp⟩
  have hskip : ∀ l ∈ before, (l != heading.toList) = true := fun l hl => by
    simpa using (hbefore l hl).2
  have hunder : ((lines doc.toList).dropWhile (· != heading.toList)).tail.dropWhile isBlankLine =
      barred heads :: rule :: (rows.map barred ++ [] :: lines rest) := by
    rw [hlines, List.append_assoc, List.dropWhile_append_of_pos hskip]
    simp [List.dropWhile_cons, isBlankLine, barred, isGap]
  have hunblank : ∀ l ∈ rows.map barred, (!isBlankLine l) = true := by
    simp [isBlankLine, barred, isGap]
  have htaken : (rows.map barred ++ [] :: lines rest).takeWhile (fun l => !isBlankLine l) =
      rows.map barred := by
    rw [List.takeWhile_append_of_pos hunblank, List.takeWhile_cons_of_neg (by decide),
      List.append_nil]
  have hread : (rows.map barred).map cells = rows := by
    rw [List.map_map]
    exact (List.map_congr_left fun row hrow => cells_barred (hrows row hrow)).trans (List.map_id rows)
  rw [tableUnder?, hunder, table?, hdashes, cells_barred hheads, hwidth, beq_self_eq_true,
    Bool.and_true, if_pos rfl, htaken, hread]

/-! ### Texts that are cells -/

/-- Whether a character is no blank, no line end and no bar. -/
def isSolid (c : Char) : Bool := !isGap c && c != '\n' && c != '\r' && c != '|'

/-- Whether a text has such characters only. -/
def Solid (s : String) : Prop := ∀ c ∈ s.toList, isSolid c = true

instance (s : String) : Decidable (Solid s) := List.decidableBAll (isSolid · = true) s.toList

theorem solid_append {s t : String} (hs : Solid s) (ht : Solid t) : Solid (s ++ t) := by
  rw [Solid, String.toList_append]
  exact List.forall_mem_append.mpr ⟨hs, ht⟩

theorem isCell_of_solid {s : String} (h : Solid s) : IsCell s := by
  have hsolid {c : Char} (hc : c ∈ s.toList) :
      isGap c = false ∧ c ≠ '\n' ∧ c ≠ '\r' ∧ c ≠ '|' := by
    simpa [isSolid, and_assoc] using h c hc
  refine ⟨fits_of_barless fun c hc => (hsolid hc).2, ?_, ?_⟩
  · refine List.dropWhile_eq_self_iff.mpr fun hpos => ?_
    simp [(hsolid (List.getElem_mem hpos)).1]
  · refine List.rdropWhile_eq_self_iff.mpr fun hne => ?_
    simp [(hsolid (List.getLast_mem hne)).1]

theorem quoted_toList (s : String) :
    ("\x60" ++ s ++ "\x60").toList = '\x60' :: s.toList ++ ['\x60'] := by
  rw [String.toList_append, String.toList_append]
  rfl

theorem fitsCell_quoted {s : String} : FitsCell ("\x60" ++ s ++ "\x60") ↔ FitsCell s := by
  rw [FitsCell, quoted_toList, fits_append_singleton (by decide)]
  exact Iff.rfl

/-- A text in back quotes is read back if it fits. -/
theorem isCell_quoted {s : String} (h : FitsCell s) : IsCell ("\x60" ++ s ++ "\x60") := by
  refine ⟨fitsCell_quoted.mpr h, ?_, ?_⟩
  · rw [quoted_toList]
    rfl
  · rw [quoted_toList, List.rdropWhile_concat_neg _ _ _ (by decide)]

theorem isBlank_of_isGap {x : Char} (h : isGap x = true) : Text.isBlank x = true := by
  rcases (by simpa [isGap] using h : x = ' ' ∨ x = '\t') with rfl | rfl <;> rfl

/-- What has been trimmed is read back from its cell if it fits. -/
theorem isCell_trim {s : String} (h : FitsCell (Text.trim s)) : IsCell (Text.trim s) := by
  have htrim : (Text.trim s).toList = (Text.trimFront s.toList).rdropWhile Text.isBlank := by
    rw [Text.trim, String.toList_ofList]
    rfl
  have hfront := List.rdropWhile_prefix Text.isBlank (l := Text.trimFront s.toList)
  refine ⟨h, ?_, ?_⟩
  · rw [htrim]
    refine List.dropWhile_eq_self_iff.mpr fun hpos hgap => ?_
    have hlong := Nat.lt_of_lt_of_le hpos hfront.length_le
    have hfirst := List.dropWhile_get_zero_not Text.isBlank s.toList hlong
    rw [hfront.getElem hpos] at hgap
    exact hfirst (isBlank_of_isGap hgap)
  · rw [htrim]
    exact List.rdropWhile_eq_self_iff.mpr fun hne hgap =>
      List.rdropWhile_last_not Text.isBlank _ hne (isBlank_of_isGap hgap)

end SuiteBench.Markdown
