import SuiteBench.Proofs.Decimal.Digits
import SuiteBench.Proofs.Endpoint.Rejection
import SuiteBench.Proofs.Text.Markdown
import SuiteBench.Report.Summary

/-!
# Proofs.Report.Narrative — the table of endpoints in the narrative

The narrative sets services and paths into the cells of its table as the catalog has them.  What a catalog
holds is trimmed, but it may have bars and, from a quoted field, line ends; nothing else that the table
shows can.  A reader of Markdown finds one row of nine cells for each endpoint, in order, just where every
service and path that the table shows keeps within its cell.
-/

namespace SuiteBench

open Markdown (FitsCell IsCell Solid Unbroken barred isSolid solid_append tableUnder?)

/-! ### Texts of a catalog -/

namespace Csv

/-- Cells of a format that trims are trimmed. -/
theorem trimmed_of_row {o : Options} {width : Nat} {r : RawRecord} {row : Row} (ho : o.trims = true)
    (h : o.row width r = .ok row) : ∀ s ∈ row.cells, ∃ t, s = Text.trim t := by
  rw [Options.row] at h
  split at h
  · cases h
  · obtain ⟨cells, -, h⟩ := Catalog.exists_of_bind_eq_ok h
    cases h
    intro s hs
    obtain ⟨cs, -, rfl⟩ := List.mem_map.mp hs
    exact ⟨String.ofList cs, by rw [cell, if_pos ho, Text.trim, String.toList_ofList]⟩

theorem trimmed_of_read {o : Options} {bytes : ByteArray} {row : Row} (ho : o.trims = true)
    (h : .ok row ∈ (o.read bytes).rows) : ∀ s ∈ row.cells, ∃ t, s = Text.trim t := by
  rw [Options.read] at h
  split at h
  · exact absurd h List.not_mem_nil
  · obtain ⟨r, -, hrow⟩ := List.mem_map.mp h
    exact trimmed_of_row ho hrow

theorem mem_of_lookup {header cells : List String} {name s : String}
    (h : lookup header cells name = some s) : s ∈ cells := by
  obtain ⟨before, after, heq, -⟩ := List.lookup_eq_some_iff.mp h
  exact (List.of_mem_zip (heq ▸ by simp : (name, s) ∈ header.zip cells)).2

end Csv

namespace Catalog

variable {c : Catalog} {header : List String} {rows : List Csv.Row} {es : List Endpoint}

theorem exists_row_of_mem (h : List.Forall₂ (fun r e => endpointOfRow header r = .ok e) rows es)
    {e : Endpoint} (he : e ∈ es) : ∃ row ∈ rows, endpointOfRow header row = .ok e := by
  obtain ⟨i, hi, rfl⟩ := List.getElem_of_mem he
  have hrow : i < rows.length := h.length_eq ▸ hi
  exact ⟨rows[i], List.getElem_mem hrow, (List.forall₂_iff_get.mp h).2 i hrow hi⟩

/-- The services of a catalog are trimmed. -/
theorem service_eq_trim {bytes : ByteArray} (h : ofBytes bytes = .ok c) {id : Nat} {e : Endpoint}
    (he : c.lookup id = .ok e) : ∃ t, e.service = Text.trim t := by
  obtain ⟨header, rows, -, hrows, hholds, -⟩ := ofBytes_holds h
  obtain ⟨es, hes, hperm⟩ := hholds.described
  have hmem := hperm.mem_iff.mp ((hholds.lookup id e).mp he).1
  obtain ⟨row, hrow, hof⟩ := exists_row_of_mem hes hmem
  have hread : .ok row ∈ (format.read bytes).rows := hrows ▸ List.mem_map_of_mem hrow
  rw [(fields_of_endpointOf (endpointOfRow_eq_ok_iff.mp hof).2.2).2.1]
  cases hcell : Csv.lookup header row.cells "service" with
  | none => exact ⟨"", rfl⟩
  | some s => exact Csv.trimmed_of_read rfl hread s (Csv.mem_of_lookup hcell)

end Catalog

namespace BenchmarkSummary

/-! ### Cells -/

theorem isSolid_of_isDigit {c : Char} (h : Decimal.isDigit c = true) : isSolid c = true := by
  have hne (x : Char) (hx : Decimal.isDigit x = false) : c ≠ x := by
    rintro rfl
    rw [h] at hx
    cases hx
  simp [isSolid, Markdown.isGap, hne ' ' rfl, hne '\t' rfl, hne '\n' rfl, hne '\r' rfl, hne '|' rfl]

theorem solid_ofNat (n : Nat) : Solid (Decimal.ofNat n) := by
  rw [Solid, Decimal.ofNat, String.toList_ofList]
  exact fun c hc => isSolid_of_isDigit (Decimal.isDigit_of_mem_digits hc)

theorem solid_fixed (places : Nat) (x : Float) : Solid (Decimal.fixed places x) := by
  have hdigits (k n : Nat) : ∀ c ∈ List.replicate k '0' ++ Decimal.digits n, isSolid c = true := by
    intro c hc
    rcases List.mem_append.mp hc with hc | hc
    · rw [List.eq_of_mem_replicate hc]
      rfl
    · exact isSolid_of_isDigit (Decimal.isDigit_of_mem_digits hc)
  have htext {cs : List Char} (hcs : ∀ c ∈ cs, isSolid c = true) : Solid (String.ofList cs) := by
    rwa [Solid, String.toList_ofList]
  rw [Decimal.fixed]
  split
  · decide
  · split <;> decide
  · refine solid_append (solid_append ?_ (htext fun c hc => hdigits _ _ c (List.mem_of_mem_take hc))) ?_
    · split <;> decide
    · split
      · decide
      · exact solid_append (by decide) (htext fun c hc => hdigits _ _ c (List.mem_of_mem_drop hc))

theorem solid_fixedText (places : Nat) (x : Option Float) :
    Solid (EndpointAggregate.fixedText places x) := by
  cases x with
  | none =>
    rw [EndpointAggregate.fixedText]
    decide
  | some x => exact solid_fixed places x

theorem solid_percentText (x : Option Float) : Solid (EndpointAggregate.percentText x) := by
  cases x with
  | none => decide
  | some x => exact solid_append (solid_fixed 1 _) (by decide)

theorem isCell_label (d : Diagnosis) : IsCell d.label := by
  cases d <;> decide

theorem isCell_methodName (m : HttpMethod) : IsCell m.name := by
  cases m <;> decide

variable {catalog : Option Catalog} {aggregates : List EndpointAggregate} {a : EndpointAggregate}

/-- Whether every service and path that is looked up for some endpoints keeps within its cell. -/
def TextsFit (catalog : Option Catalog) (aggregates : List EndpointAggregate) : Prop :=
  ∀ c ∈ catalog, ∀ a ∈ aggregates, ∀ e, c.lookup a.endpoint = .ok e →
    FitsCell e.service ∧ FitsCell e.path

theorem endpointCells_of_lookup {c : Catalog} {e : Endpoint} (h : c.lookup a.endpoint = .ok e) :
    endpointCells (some c) a = [Decimal.ofNat a.endpoint, e.service, e.method.name,
      "\x60" ++ e.path ++ "\x60", Decimal.ofNat a.totalRuns,
      EndpointAggregate.percentText a.successRate,
      EndpointAggregate.fixedText 1 a.generationTime.avg,
      EndpointAggregate.fixedText 2 a.tests.avg, a.errors.primary.label] := by
  simp only [endpointCells, Option.bind_some, h, Except.toOption]

theorem length_endpointCells : (endpointCells catalog a).length = endpointHeads.length := by
  simp only [endpointCells]
  rfl

theorem isCell_of_mem_entry (a : EndpointAggregate) {service method path : String}
    (hservice : IsCell service) (hmethod : IsCell method) (hpath : FitsCell path) :
    ∀ s ∈ [Decimal.ofNat a.endpoint, service, method, "\x60" ++ path ++ "\x60",
      Decimal.ofNat a.totalRuns, EndpointAggregate.percentText a.successRate,
      EndpointAggregate.fixedText 1 a.generationTime.avg,
      EndpointAggregate.fixedText 2 a.tests.avg, a.errors.primary.label], IsCell s := by
  have hnumber (n : Nat) : IsCell (Decimal.ofNat n) := Markdown.isCell_of_solid (solid_ofNat n)
  have hfigure (places : Nat) (x : Option Float) : IsCell (EndpointAggregate.fixedText places x) :=
    Markdown.isCell_of_solid (solid_fixedText places x)
  have hrate : IsCell (EndpointAggregate.percentText a.successRate) :=
    Markdown.isCell_of_solid (solid_percentText _)
  simp only [List.forall_mem_cons]
  exact ⟨hnumber _, hservice, hmethod, Markdown.isCell_quoted hpath, hnumber _, hrate, hfigure _ _,
    hfigure _ _, isCell_label _, by simp⟩

theorem isCell_of_mem_endpointCells
    (hcatalog : ∀ c ∈ catalog, ∃ bytes, Catalog.ofBytes bytes = .ok c)
    (hfit : TextsFit catalog aggregates) (ha : a ∈ aggregates) :
    ∀ s ∈ endpointCells catalog a, IsCell s := by
  cases catalog with
  | none => exact isCell_of_mem_entry a (by decide) (by decide) (by decide)
  | some c =>
    cases hlookup : c.lookup a.endpoint with
    | error err =>
      simp only [endpointCells, Option.bind_some, hlookup, Except.toOption]
      exact isCell_of_mem_entry a (by decide) (by decide) (by decide)
    | ok e =>
      obtain ⟨hservice, hpath⟩ := hfit c rfl a ha e hlookup
      obtain ⟨bytes, hbytes⟩ := hcatalog c rfl
      obtain ⟨t, ht⟩ := Catalog.service_eq_trim hbytes hlookup
      have hcell : IsCell e.service := ht ▸ Markdown.isCell_trim (ht ▸ hservice)
      rw [endpointCells_of_lookup hlookup]
      exact isCell_of_mem_entry a hcell (isCell_methodName _) hpath

/-! ### Lines -/

theorem row_toList {cells : List String} (h : cells ≠ []) : (row cells).toList = barred cells := by
  obtain ⟨s, cells, rfl⟩ := List.exists_cons_of_ne_nil h
  have hjoin : ∀ (s : String) (cells : List String), (Text.join " | " (s :: cells) ++ " |").toList =
      s.toList ++ [' ', '|'] ++ cells.flatMap fun s => ' ' :: s.toList ++ [' ', '|'] := by
    intro s cells
    induction cells generalizing s with
    | nil => simp [Text.join]
    | cons t cells ih =>
      rw [Text.join, String.intercalate_cons_cons, String.append_assoc, String.toList_append,
        ← Text.join, ih t]
      simp
  rw [row, String.append_assoc, String.toList_append, hjoin]
  simp [barred]

theorem markdown_toList (s : BenchmarkSummary) (aggregates : List EndpointAggregate)
    (catalog : Option Catalog) (caveats : List String) :
    (s.markdown aggregates catalog caveats).toList =
      ((["# Benchmark Summary", ""] ++ s.totalLines ++ endpointLines catalog aggregates ++
        s.errorLines ++ s.missingLines ++ s.caveatLines caveats).map String.toList).flatMap
          (· ++ ['\n']) := by
  rw [markdown, String.toList_join, List.flatMap_map, List.flatMap_map]
  simp

/-- The heading of the endpoints' section. -/
def endpointHeading : String := "## Endpoints"

theorem forall_mem_totalLines (s : BenchmarkSummary) :
    ∀ l ∈ ["# Benchmark Summary", ""] ++ s.totalLines,
      Unbroken l.toList ∧ l.toList ≠ endpointHeading.toList := by
  have hrow {name text : String} (hname : Unbroken name.toList)
      (htext : Solid text) :
      Unbroken (row [name, text]).toList ∧ (row [name, text]).toList ≠ endpointHeading.toList := by
    rw [row_toList (by simp)]
    refine ⟨Markdown.unbroken_barred ?_, by simp [barred, endpointHeading]⟩
    simpa using ⟨hname, Markdown.unbroken_of_fits (Markdown.isCell_of_solid htext).fits⟩
  simp only [totalLines, List.cons_append, List.nil_append, List.forall_mem_cons]
  exact ⟨by decide, by decide, by decide, by decide, hrow (by decide) (by decide), by decide,
    hrow (by decide) (solid_ofNat _), hrow (by decide) (solid_ofNat _),
    hrow (by decide) (solid_ofNat _), hrow (by decide) (solid_ofNat _),
    hrow (by decide) (solid_ofNat _), hrow (by decide) (solid_percentText _),
    hrow (by decide) (solid_fixedText _ _), hrow (by decide) (solid_fixedText _ _),
    hrow (by decide) (solid_fixedText _ _), hrow (by decide) (solid_fixedText _ _),
    hrow (by decide) (solid_fixedText _ _), by decide, by simp⟩

/-! ### The table read back -/

/-- The table of the narrative is read as its cells have been set if these keep within their bounds. -/
theorem tableUnder?_of_textsFit (s : BenchmarkSummary) (caveats : List String)
    (hcatalog : ∀ c ∈ catalog, ∃ bytes, Catalog.ofBytes bytes = .ok c)
    (hfit : TextsFit catalog aggregates) :
    tableUnder? endpointHeading (s.markdown aggregates catalog caveats) =
      some ⟨endpointHeads, aggregates.map (endpointCells catalog)⟩ := by
  have hrows : aggregates.map (fun a => (row (endpointCells catalog a)).toList) =
      (aggregates.map (endpointCells catalog)).map barred := by
    rw [List.map_map]
    refine List.map_congr_left fun a _ => row_toList ?_
    rw [← List.length_pos_iff, length_endpointCells]
    decide
  -- the document in three parts: what stands before the table, the table, and what stands behind it
  have hdoc : (s.markdown aggregates catalog caveats).toList =
      ((["# Benchmark Summary", ""] ++ s.totalLines).map String.toList ++
        endpointHeading.toList :: [] :: barred endpointHeads :: (rule endpointHeads.length).toList ::
          ((aggregates.map (endpointCells catalog)).map barred ++ [[]])).flatMap (· ++ ['\n']) ++
        ((s.errorLines ++ s.missingLines ++ s.caveatLines caveats).map String.toList).flatMap
          (· ++ ['\n']) := by
    rw [markdown_toList, ← List.flatMap_append, ← hrows, ← row_toList (by decide)]
    simp [endpointLines, endpointHeading, Function.comp_def]
  refine Markdown.tableUnder?_eq hdoc (List.forall_mem_map.mpr (forall_mem_totalLines s))
    (by decide) (by decide) (by decide) (by decide) (by decide) ?_
  exact List.forall_mem_map.mpr fun a ha => isCell_of_mem_endpointCells hcatalog hfit ha

theorem textsFit_of_tableUnder? {doc : String} {heads : List String}
    (h : tableUnder? endpointHeading doc =
      some ⟨heads, aggregates.map (endpointCells catalog)⟩) : TextsFit catalog aggregates := by
  rintro c hc a ha e he
  obtain rfl := Option.mem_def.mp hc
  have hfits : ∀ s ∈ endpointCells (some c) a, FitsCell s :=
    Markdown.fitsCell_of_tableUnder? h _ (List.mem_map_of_mem ha)
  rw [endpointCells_of_lookup he] at hfits
  exact ⟨hfits e.service (by simp), Markdown.fitsCell_quoted.mp (hfits _ (by simp))⟩

/-- The table of endpoints has nine columns, and it is read back with one row of nine cells for each
endpoint, in order, just where every service and path that it shows keeps within its cell. -/
theorem endpoints_read_iff (s : BenchmarkSummary) (aggregates : List EndpointAggregate)
    (catalog : Option Catalog) (caveats : List String)
    (hcatalog : ∀ c ∈ catalog, ∃ bytes, Catalog.ofBytes bytes = .ok c) :
    endpointHeads.length = 9 ∧ (∀ a, (endpointCells catalog a).length = 9) ∧
      (tableUnder? endpointHeading (s.markdown aggregates catalog caveats) =
          some ⟨endpointHeads, aggregates.map (endpointCells catalog)⟩ ↔
        TextsFit catalog aggregates) :=
  ⟨rfl, fun _ => length_endpointCells, textsFit_of_tableUnder?,
    tableUnder?_of_textsFit s caveats hcatalog⟩

/-- The endpoints with some ids, none of which has been run. -/
def unrun (ids : List Nat) : List EndpointAggregate := ids.map fun id => Report.aggregate id none []

theorem endpoints_read_iff_twoEndpoints :
    tableUnder? endpointHeading ((of (unrun [2, 1, 3]) []).markdown (unrun [2, 1, 3])
        (some Catalog.twoEndpoints) []) =
      some ⟨endpointHeads, (unrun [2, 1, 3]).map (endpointCells (some Catalog.twoEndpoints))⟩ := by
  have hcatalog : ∀ c ∈ some Catalog.twoEndpoints, ∃ bytes, Catalog.ofBytes bytes = .ok c := by
    rintro c ⟨rfl⟩
    exact ⟨_, Catalog.ofBytes_secondFirst⟩
  refine (endpoints_read_iff _ _ _ _ hcatalog).2.2.mpr ?_
  rintro c ⟨rfl⟩ a ha e he
  simp only [unrun, List.map_cons, List.map_nil, List.mem_cons, List.not_mem_nil, or_false] at ha
  obtain rfl | rfl | rfl := ha
  · cases he
    decide
  · cases he
    decide
  · cases he

/-- A catalog of one endpoint with a service of its own. -/
def oneService (service : String) : Catalog :=
  ⟨[⟨1, service, "/x", .get, "com.A", "m", [], false, [], .none⟩]⟩

/-- Its table, with the service in quotes. -/
def oneServiceTable (service : String) : ByteArray :=
  ("id,service,path,http_method,controller_class,method_name\n1,\"" ++ service ++
    "\",/x,GET,com.A,m\n").toUTF8

/-- A bar in a service makes a cell more, and a line end in it makes two rows of one. -/
theorem endpoints_cells_miscounted :
    (Catalog.ofBytes (oneServiceTable "a|b") = .ok (oneService "a|b") ∧
      (tableUnder? endpointHeading ((of (unrun [1]) []).markdown (unrun [1])
        (some (oneService "a|b")) [])).map (fun t => t.rows.map List.length) = some [10]) ∧
    Catalog.ofBytes (oneServiceTable "a\nb") = .ok (oneService "a\nb") ∧
      (tableUnder? endpointHeading ((of (unrun [1]) []).markdown (unrun [1])
        (some (oneService "a\nb")) [])).map (fun t => t.rows.map List.length) = some [2, 8] := by
  have haccepted {service : String} (hheader : (Catalog.format.read (oneServiceTable service)).header =
      .ok Catalog.requiredColumns) (hcollect : Catalog.collect Catalog.requiredColumns []
        (Catalog.format.read (oneServiceTable service)).rows = .ok (oneService service).endpoints) :
      Catalog.ofBytes (oneServiceTable service) = .ok (oneService service) :=
    Catalog.ofTable_of_collect hheader hcollect (.refl _) rfl (by simp [oneService])
  refine ⟨⟨haccepted (by decide +kernel) (by decide +kernel), ?_⟩,
    haccepted (by decide +kernel) (by decide +kernel), ?_⟩
  · rw [tableUnder?, markdown_toList]
    decide +kernel
  · rw [tableUnder?, markdown_toList]
    decide +kernel

end BenchmarkSummary

end SuiteBench
