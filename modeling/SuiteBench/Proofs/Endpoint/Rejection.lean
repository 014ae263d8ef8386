import Mathlib.Order.Bounds.Basic
import SuiteBench.Proofs.Endpoint.Rows

/-!
# Proofs.Endpoint.Rejection — why a table makes no catalog

The rows are taken one by one, and the first that cannot be taken gives the error.  Whether a row can be
taken depends on the rows before it only through their ids.  Gaps are looked for among the sorted ids
when every row was taken: the first place where these leave 1, 2, 3 and so on is at the least id that is
missing.
-/

namespace SuiteBench

namespace Catalog

variable {header : List String} {row : Csv.Row} {e : Endpoint} {es seen : List Endpoint}
  {t : Csv.Table} {err : CatalogError} {entry : Except Csv.ReadError Csv.Row}
  {entries before after : List (Except Csv.ReadError Csv.Row)}

/-! ### One row -/

theorem exists_of_bind_eq_ok {ε α β : Type} {x : Except ε α} {f : α → Except ε β} {b : β}
    (h : x >>= f = .ok b) : ∃ a, x = .ok a ∧ f a = .ok b := by
  cases x with
  | error e => cases h
  | ok a => exact ⟨a, rfl, h⟩

/-- An endpoint has an id from 1 up, and its texts are what the cells hold. -/
theorem fields_of_endpointOf {cell : String → String} (h : endpointOf cell = .ok e) :
    1 ≤ e.id ∧ e.service = cell "service" ∧ e.path = cell "path" := by
  rw [endpointOf] at h
  split at h
  · next id _ =>
    simp only [pure_bind] at h
    split at h
    · cases h
    · next hid =>
      have hpos : 1 ≤ id := Nat.pos_of_ne_zero (by simpa using hid)
      obtain ⟨-, -, h⟩ := exists_of_bind_eq_ok h
      obtain ⟨method, -, h⟩ := exists_of_bind_eq_ok h
      obtain ⟨authorization, -, h⟩ := exists_of_bind_eq_ok h
      split at h
      · obtain ⟨codes, -, h⟩ := exists_of_bind_eq_ok h
        cases h
        exact ⟨hpos, rfl, rfl⟩
      · cases h
  · cases h

theorem one_le_id (h : endpointOfRow header row = .ok e) : 1 ≤ e.id :=
  (fields_of_endpointOf (endpointOfRow_eq_ok_iff.mp h).2.2).1

/-- A row that describes no endpoint is malformed, at its own line. -/
theorem malformed_of_endpointOfRow (h : endpointOfRow header row = .error err) :
    ∃ what, err = .malformed row.position.line what := by
  rw [endpointOfRow] at h
  split at h
  · cases h
    exact ⟨_, rfl⟩
  · simp only [] at h
    split at h
    · cases h
      exact ⟨_, rfl⟩
    · cases hof : endpointOf fun c => (Csv.lookup header row.cells c).getD "" with
      | ok e =>
        rw [hof] at h
        cases h
      | error what =>
        rw [hof] at h
        cases h
        exact ⟨what, rfl⟩

/-! ### The first row that offends -/

/-- The ids of the endpoints that rows describe. -/
def ids (header : List String) (entries : List (Except Csv.ReadError Csv.Row)) : Set Nat :=
  {id | ∃ row e, .ok row ∈ entries ∧ endpointOfRow header row = .ok e ∧ e.id = id}

/-- Whether an entry of a table cannot be taken behind those before it, and what its error is. -/
inductive Offends (header : List String) (before : List (Except Csv.ReadError Csv.Row)) :
    Except Csv.ReadError Csv.Row → CatalogError → Prop
  | unreadable (cause : Csv.ReadError) : Offends header before (.error cause) (.read cause)
  | malformed {row : Csv.Row} {what : String}
      (h : endpointOfRow header row = .error (.malformed row.position.line what)) :
      Offends header before (.ok row) (.malformed row.position.line what)
  | repeated {row : Csv.Row} {e : Endpoint} (h : endpointOfRow header row = .ok e)
      (hid : e.id ∈ ids header before) :
      Offends header before (.ok row) (.duplicateId e.id row.position.line)

/-- Whether no entry offends. -/
def Clean (header : List String) (entries : List (Except Csv.ReadError Csv.Row)) : Prop :=
  ∀ before entry after err, entries = before ++ entry :: after → ¬ Offends header before entry err

theorem exists_row_iff {rows : List Csv.Row} {id : Nat}
    (hall : List.Forall₂ (fun r e => endpointOfRow header r = .ok e) rows es) :
    (∃ row ∈ rows, ∃ e, endpointOfRow header row = .ok e ∧ e.id = id) ↔ ∃ e ∈ es, e.id = id := by
  induction hall with
  | nil => simp
  | @cons row e rows es hrow _ ih =>
    simp only [List.exists_mem_cons_iff, ih, hrow, Except.ok.injEq, exists_eq_left']

theorem mem_ids_iff_of_collect (h : collect header [] entries = .ok es) {id : Nat} :
    id ∈ ids header entries ↔ id ∈ es.map (·.id) := by
  obtain ⟨rows, new, rfl, hall, heq, -, -⟩ := collect_eq_ok_iff.mp h
  obtain rfl : es = new := heq
  rw [List.mem_map, ← exists_row_iff hall]
  constructor
  · rintro ⟨row, e, hrow, he, hid⟩
    obtain ⟨row', hmem, hsame⟩ := List.mem_map.mp hrow
    cases hsame
    exact ⟨row, hmem, e, he, hid⟩
  · rintro ⟨row, hrow, e, he, hid⟩
    exact ⟨row, e, List.mem_map_of_mem hrow, he, hid⟩

theorem collect_append : collect header seen (before ++ after) =
    collect header seen before >>= fun es => collect header es.reverse after := by
  induction before generalizing seen with
  | nil =>
    change collect header seen after = collect header seen.reverse.reverse after
    rw [List.reverse_reverse]
  | cons entry before ih =>
    cases entry with
    | error cause => rfl
    | ok row =>
      rw [List.cons_append, collect, collect]
      cases endpointOfRow header row with
      | error err => rfl
      | ok e =>
        dsimp only
        split
        · rfl
        · exact ih

/-- An entry offends just where it stops the collecting behind the entries before it. -/
theorem collect_singleton_eq_error_iff (h : collect header [] before = .ok es) :
    collect header es.reverse [entry] = .error err ↔ Offends header before entry err := by
  cases entry with
  | error cause =>
    rw [collect, Except.error.injEq]
    constructor
    · rintro rfl
      exact .unreadable cause
    · rintro ⟨⟩
      rfl
  | ok row =>
    rw [collect]
    cases hrow : endpointOfRow header row with
    | error err' =>
      rw [Except.error.injEq]
      constructor
      · rintro rfl
        obtain ⟨what, rfl⟩ := malformed_of_endpointOfRow hrow
        exact .malformed hrow
      · rintro (_ | hrow' | hrow')
        · rw [hrow, Except.error.injEq] at hrow'
          exact hrow'
        · rw [hrow] at hrow'
          cases hrow'
    | ok e =>
      have hseen : (es.reverse.any fun s => s.id == e.id) = true ↔ e.id ∈ ids header before := by
        rw [mem_ids_iff_of_collect h]
        simp
      dsimp only
      split
      · next hold =>
        rw [Except.error.injEq]
        constructor
        · rintro rfl
          exact .repeated hrow (hseen.mp hold)
        · rintro (_ | hrow' | hrow')
          · rw [hrow] at hrow'
            cases hrow'
          · rw [hrow, Except.ok.injEq] at hrow'
            rw [hrow']
      · next hnew =>
        refine iff_of_false (by simp [collect]) ?_
        rintro (_ | hrow' | ⟨hrow', hid⟩)
        · rw [hrow] at hrow'
          cases hrow'
        · rw [hrow, Except.ok.injEq] at hrow'
          exact hnew (hseen.mpr (hrow' ▸ hid))

theorem exists_offends_of_collect (h : collect header [] entries = .error err) :
    ∃ before entry after es, entries = before ++ entry :: after ∧
      collect header [] before = .ok es ∧ Offends header before entry err := by
  induction entries using List.reverseRecOn with
  | nil => cases h
  | append_singleton entries entry ih =>
    rw [collect_append] at h
    cases hfront : collect header [] entries with
    | error err' =>
      rw [hfront] at h
      cases h
      obtain ⟨before, entry', after, es, rfl, hbefore, hoffends⟩ := ih hfront
      exact ⟨before, entry', after ++ [entry], es, by simp, hbefore, hoffends⟩
    | ok es =>
      rw [hfront] at h
      exact ⟨entries, entry, [], es, rfl, hfront, (collect_singleton_eq_error_iff hfront).mp h⟩

theorem collect_of_offends (h : collect header [] before = .ok es)
    (hoffends : Offends header before entry err) :
    collect header [] (before ++ entry :: after) = .error err := by
  rw [collect_append, h]
  change collect header es.reverse ([entry] ++ after) = .error err
  rw [collect_append, (collect_singleton_eq_error_iff h).mpr hoffends]
  rfl

/-- The rows of a table are collected just where none offends. -/
theorem clean_iff : Clean header entries ↔ ∃ es, collect header [] entries = .ok es := by
  constructor
  · intro hclean
    cases h : collect header [] entries with
    | ok es => exact ⟨es, rfl⟩
    | error err =>
      obtain ⟨before, entry, after, es, heq, -, hoffends⟩ := exists_offends_of_collect h
      exact absurd hoffends (hclean before entry after err heq)
  · rintro ⟨es, h⟩ before entry after err rfl hoffends
    obtain ⟨es', hbefore, -⟩ := exists_of_bind_eq_ok (collect_append ▸ h)
    rw [collect_of_offends hbefore hoffends] at h
    cases h

/-- They are not collected just where one offends, and then the error is that of the first. -/
theorem collect_eq_error_iff : collect header [] entries = .error err ↔
    ∃ before entry after, entries = before ++ entry :: after ∧ Clean header before ∧
      Offends header before entry err := by
  constructor
  · intro h
    obtain ⟨before, entry, after, es, heq, hbefore, hoffends⟩ := exists_offends_of_collect h
    exact ⟨before, entry, after, heq, clean_iff.mpr ⟨es, hbefore⟩, hoffends⟩
  · rintro ⟨before, entry, after, rfl, hclean, hoffends⟩
    obtain ⟨es, hbefore⟩ := clean_iff.mp hclean
    exact collect_of_offends hbefore hoffends

/-! ### The first gap -/

theorem isLeast_of_firstGap? : ∀ {n k found : Nat} {es : List Endpoint},
    (es.map (·.id)).Pairwise (· < ·) → (∀ id ∈ es.map (·.id), n ≤ id) →
      firstGap? n es = some (k, found) →
        IsLeast {m | n ≤ m ∧ m ∉ es.map (·.id)} k ∧
          IsLeast {id | id ∈ es.map (·.id) ∧ k < id} found
  | n, k, found, e :: es, hasc, hge, h => by
    rw [List.map_cons, List.pairwise_cons] at hasc
    obtain ⟨hfirst, hasc⟩ := hasc
    rw [List.map_cons, List.forall_mem_cons] at hge
    rw [firstGap?] at h
    split at h
    · next heq =>
      -- the ids go on at `n`: the gap is that of the others behind it
      obtain ⟨hk, hfound⟩ := isLeast_of_firstGap? hasc (heq ▸ hfirst) h
      have hlt : n < k := hk.1.1
      refine ⟨⟨⟨hlt.le, ?_⟩, fun m hm => ?_⟩, ⟨⟨?_, hfound.1.2⟩, fun id hid => ?_⟩⟩
      · rw [List.map_cons, List.mem_cons, heq]
        exact fun h => h.elim (fun h => hlt.ne' h) hk.1.2
      · obtain ⟨hnm, hm⟩ := hm
        rw [List.map_cons, List.mem_cons, heq, not_or] at hm
        exact hk.2 ⟨Nat.lt_of_le_of_ne hnm fun h => hm.1 h.symm, hm.2⟩
      · exact List.mem_cons_of_mem _ hfound.1.1
      · obtain ⟨hmem, hk'⟩ := hid
        rw [List.map_cons, List.mem_cons, heq] at hmem
        exact hfound.2 ⟨hmem.resolve_left fun h => by omega, hk'⟩
    · next hne =>
      cases h
      have hlt : n < e.id := Nat.lt_of_le_of_ne hge.1 fun h => hne h.symm
      have hall : ∀ id ∈ (e :: es).map (·.id), e.id ≤ id := by
        rw [List.map_cons, List.forall_mem_cons]
        exact ⟨le_rfl, fun id hid => (hfirst id hid).le⟩
      refine ⟨⟨⟨le_rfl, fun hn => ?_⟩, fun m hm => hm.1⟩,
        ⟨⟨List.mem_cons_self, hlt⟩, fun id hid => hall id hid.1⟩⟩
      exact absurd (hall n hn) (Nat.not_le_of_lt hlt)

/-- The least number from `n` on that is no id, where a greater number is one, is the first gap. -/
theorem firstGap?_eq_some_iff {n k found : Nat} (hasc : (es.map (·.id)).Pairwise (· < ·))
    (hge : ∀ id ∈ es.map (·.id), n ≤ id) : firstGap? n es = some (k, found) ↔
      IsLeast {m | n ≤ m ∧ m ∉ es.map (·.id)} k ∧
        IsLeast {id | id ∈ es.map (·.id) ∧ k < id} found := by
  refine ⟨isLeast_of_firstGap? hasc hge, fun ⟨hk, hfound⟩ => ?_⟩
  cases hgap : firstGap? n es with
  | none =>
    -- without a gap, all numbers up to an id are ids
    have hids := ids_of_firstGap? hgap
    have hlt := (List.mem_range'_1.mp (hids ▸ hfound.1.1)).2
    refine absurd ?_ hk.1.2
    rw [hids, List.mem_range'_1]
    exact ⟨hk.1.1, hfound.1.2.trans hlt⟩
  | some gap =>
    obtain ⟨k', found'⟩ := gap
    obtain ⟨hk', hfound'⟩ := isLeast_of_firstGap? hasc hge hgap
    obtain rfl : k' = k := hk'.unique hk
    rw [hfound'.unique hfound]

/-! ### All rows -/

/-- Why rows under a header make no catalog. -/
inductive Fault (header : List String) (entries : List (Except Csv.ReadError Csv.Row)) :
    CatalogError → Prop
  | offender {before after : List (Except Csv.ReadError Csv.Row)}
      {entry : Except Csv.ReadError Csv.Row} {err : CatalogError}
      (split : entries = before ++ entry :: after) (clean : Clean header before)
      (offends : Offends header before entry err) : Fault header entries err
  | empty (none : entries = []) : Fault header entries .empty
  | gap {expected found : Nat} (clean : Clean header entries)
      (least : IsLeast {n | 1 ≤ n ∧ n ∉ ids header entries} expected)
      (next : IsLeast {id | id ∈ ids header entries ∧ expected < id} found) :
      Fault header entries (.gap expected found)

theorem collect_eq_nil_iff : collect header [] entries = .ok [] ↔ entries = [] := by
  constructor
  · intro h
    obtain ⟨rows, new, rfl, hall, heq, -, -⟩ := collect_eq_ok_iff.mp h
    obtain rfl : [] = new := heq
    cases hall
    rfl
  · rintro rfl
    rfl

/-- A table makes no catalog in one of three steps. -/
theorem ofTable_eq_error (hheader : t.header = .ok header) : ofTable t = .error err ↔
    collect header [] t.rows = .error err ∨ ∃ es, collect header [] t.rows = .ok es ∧
      (es = [] ∧ err = .empty ∨ es ≠ [] ∧ ∃ expected found,
        firstGap? 1 (es.mergeSort fun a b => a.id ≤ b.id) = some (expected, found) ∧
          err = .gap expected found) := by
  rw [ofTable, hheader]
  cases hcollect : collect header [] t.rows with
  | error e => simp [Except.mapError, bind, Except.bind, hcollect]
  | ok es =>
    simp only [Except.mapError, bind, Except.bind, hcollect, Except.ok.injEq, exists_eq_left',
      reduceCtorEq, false_or]
    by_cases hes : es = []
    · simp [hes, throw, throwThe, MonadExceptOf.throw, eq_comm]
    · rw [if_neg (by simpa using hes)]
      cases firstGap? 1 (es.mergeSort fun a b => a.id ≤ b.id) with
      | none => simp [hes, pure, Except.pure]
      | some gap => simp [hes, throw, throwThe, MonadExceptOf.throw, eq_comm, Prod.ext_iff]

theorem firstGap?_of_collect (h : collect header [] entries = .ok es) {expected found : Nat} :
    firstGap? 1 (es.mergeSort fun a b => a.id ≤ b.id) = some (expected, found) ↔
      IsLeast {n | 1 ≤ n ∧ n ∉ ids header entries} expected ∧
        IsLeast {id | id ∈ ids header entries ∧ expected < id} found := by
  have hperm := (List.mergeSort_perm es fun a b => decide (a.id ≤ b.id)).map (·.id)
  have hids (id : Nat) : id ∈ (es.mergeSort fun a b => a.id ≤ b.id).map (·.id) ↔
      id ∈ ids header entries := by
    rw [mem_ids_iff_of_collect h, hperm.mem_iff]
  have hge : ∀ id ∈ (es.mergeSort fun a b => a.id ≤ b.id).map (·.id), 1 ≤ id := by
    intro id hid
    obtain ⟨row, e, -, he, rfl⟩ := (hids id).mp hid
    exact one_le_id he
  have hasc : ((es.mergeSort fun a b => a.id ≤ b.id).map (·.id)).Pairwise (· < ·) := by
    obtain ⟨rows, new, -, -, heq, -, hnodup⟩ := collect_eq_ok_iff.mp h
    obtain rfl : es = new := heq
    have hle := List.pairwise_map.mpr (pairwise_mergeSort es)
    exact hle.imp₂ (fun _ _ => Nat.lt_of_le_of_ne) (hperm.nodup_iff.mpr hnodup)
  rw [firstGap?_eq_some_iff hasc hge]
  simp only [hids]

/-- A table is rejected for its first row that offends; where none does, because it has no rows, or for
the least number that is missing below a greater id. -/
theorem ofTable_error_iff {header : List String} {t : Csv.Table} (hheader : t.header = .ok header)
    (err : CatalogError) : ofTable t = .error err ↔ Fault header t.rows err := by
  rw [ofTable_eq_error hheader]
  constructor
  · rintro (h | ⟨es, h, ⟨rfl, rfl⟩ | ⟨hes, expected, found, hgap, rfl⟩⟩)
    · obtain ⟨before, entry, after, heq, hclean, hoffends⟩ := collect_eq_error_iff.mp h
      exact .offender heq hclean hoffends
    · exact .empty (collect_eq_nil_iff.mp h)
    · obtain ⟨hleast, hnext⟩ := (firstGap?_of_collect h).mp hgap
      exact .gap (clean_iff.mpr ⟨es, h⟩) hleast hnext
  · rintro (⟨heq, hclean, hoffends⟩ | hnone | ⟨hclean, hleast, hnext⟩)
    · exact .inl (collect_eq_error_iff.mpr ⟨_, _, _, heq, hclean, hoffends⟩)
    · exact .inr ⟨[], collect_eq_nil_iff.mpr hnone, .inl ⟨rfl, rfl⟩⟩
    · obtain ⟨es, h⟩ := clean_iff.mp hclean
      refine .inr ⟨es, h, .inr ⟨?_, _, _, (firstGap?_of_collect h).mpr ⟨hleast, hnext⟩, rfl⟩⟩
      rintro rfl
      exact absurd ((mem_ids_iff_of_collect h).mp hnext.1.1) List.not_mem_nil

/-- Rows of which the second repeats an id, the third is malformed and none has the id 1. -/
def doubledSecond : ByteArray :=
  ("id,service,path,http_method,controller_class,method_name\n" ++
    "2,b,/b,PUT,B,b\n2,a,/a,GET,A,a\n0,c,/c,GET,C,c\n").toUTF8

theorem ofTable_error_doubledSecond :
    (format.read doubledSecond).header = .ok requiredColumns ∧
      ofBytes doubledSecond = .error (.duplicateId 2 3) ∧
        Fault requiredColumns (format.read doubledSecond).rows (.duplicateId 2 3) := by
  have hheader : (format.read doubledSecond).header = .ok requiredColumns := by decide +kernel
  have hcollect : collect requiredColumns [] (format.read doubledSecond).rows =
      .error (.duplicateId 2 3) := by decide +kernel
  have hbytes : ofTable (format.read doubledSecond) = .error (.duplicateId 2 3) :=
    (ofTable_eq_error hheader).mpr (.inl hcollect)
  exact ⟨hheader, hbytes, (ofTable_error_iff hheader _).mp hbytes⟩

end Catalog

end SuiteBench
