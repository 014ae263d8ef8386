import SuiteBench.Proofs.Report.Overlay

/-!
# Proofs.Report.Evaluations — whose checklist an endpoint is given

Evaluations are gathered from every directory whose name carries the number of an endpoint, and a later
one of a number replaces an earlier one.  An endpoint is given the checklist of its own directory, in
whatever order the directories are listed, just where no other directory of its number has a checklist
that says something else.
-/

namespace SuiteBench

namespace Report

variable {d : ResultsDir} {t : Tree} {es es' : List (Nat × Evaluation)} {x : String × Entry}
  {xs ys : List (String × Entry)} {id : Nat} {name : String} {e : Evaluation}

/-- What the checklist in the directory of this name says, if there is one that is a text. -/
def checklistIn? (d : ResultsDir) (t : Tree) (name : String) : Option Evaluation :=
  match t.find? (d.location ++ [name, Layout.manualEvaluation]) with
  | some (.file content _) => (String.fromUTF8? content).map Evaluation.ofText
  | _ => none

/-- The checklist that a listed directory has for an endpoint, if its name carries the number. -/
def checklistFor? (d : ResultsDir) (t : Tree) (id : Nat) (x : String × Entry) : Option Evaluation :=
  if Layout.number? x.1 "endpoint" = some id then checklistIn? d t x.1 else none

/-- Whether no directory of an endpoint's number has a checklist that says something else than the one in
the endpoint's own directory. -/
def Undisputed (d : ResultsDir) (t : Tree) (id : Nat) : Prop :=
  ∀ name e, Layout.number? name "endpoint" = some id → checklistIn? d t name = some e →
    checklistIn? d t (Layout.endpointName id) = some e

/-- The evaluations where the results directory lists its entries in this order. -/
def gather (d : ResultsDir) (t : Tree) (xs : List (String × Entry)) :
    Except ReportError (List (Nat × Evaluation)) :=
  xs.foldlM (takeEvaluation d t) []

/-! ### One directory after another -/

theorem lookup_putEvaluation (n : Nat) (e : Evaluation) (es : List (Nat × Evaluation)) (id : Nat) :
    (putEvaluation n e es).lookup id = if n = id then some e else es.lookup id := by
  rw [putEvaluation, List.lookup_cons, Tree.lookup_filter_fst (fun k => k != n)]
  by_cases h : n = id
  · simp [h]
  · have hne : (id == n) = false := by simpa using Ne.symm h
    simp [h, Ne.symm h, hne]

/-- A directory replaces what its endpoint has, and only that. -/
theorem lookup_takeEvaluation (h : takeEvaluation d t es x = .ok es') (id : Nat) :
    es'.lookup id = (checklistFor? d t id x).or (es.lookup id) := by
  rw [takeEvaluation] at h
  rw [checklistFor?]
  cases hn : Layout.number? x.1 "endpoint" with
  | none =>
    rw [hn] at h
    cases h
    simp
  | some n =>
    simp only [hn] at h
    split at h
    · next content executable hfile =>
      split at h
      · next text htext =>
        cases h
        have hown : checklistIn? d t x.1 = some (Evaluation.ofText text) := by
          rw [checklistIn?, hfile]
          dsimp only
          rw [htext, Option.map_some]
        rw [lookup_putEvaluation, hown]
        by_cases hid : n = id <;> simp [hid]
      · cases h
    · next hfile =>
      cases h
      have hown : checklistIn? d t x.1 = none := by
        rw [checklistIn?]
        split
        · next content executable hfile' => exact absurd hfile' (hfile content executable)
        · rfl
      rw [hown, ite_self, Option.none_or]

/-- The last directory of its number that has a checklist decides what an endpoint is given. -/
theorem lookup_foldlM (h : xs.foldlM (takeEvaluation d t) es = .ok es') (id : Nat) :
    es'.lookup id = (xs.filterMap (checklistFor? d t id)).getLast?.or (es.lookup id) := by
  induction xs generalizing es with
  | nil =>
    cases h
    rfl
  | cons x xs ih =>
    rw [List.foldlM_cons] at h
    cases htake : takeEvaluation d t es x with
    | error f => simp [htake, bind, Except.bind] at h
    | ok es'' =>
      rw [htake] at h
      rw [ih h, lookup_takeEvaluation htake, List.filterMap_cons]
      cases checklistFor? d t id x with
      | none => rfl
      | some e =>
        rw [List.getLast?_cons]
        cases (xs.filterMap (checklistFor? d t id)).getLast? <;> rfl

theorem lookup_gather (h : gather d t xs = .ok es) (id : Nat) :
    es.lookup id = (xs.filterMap (checklistFor? d t id)).getLast? := by
  rw [lookup_foldlM h, List.lookup_nil, Option.or_none]

/-- Whether the checklist of a directory can be read does not depend on what was found before. -/
theorem takeEvaluation_ok (h : takeEvaluation d t es x = .ok es') (es₁ : List (Nat × Evaluation)) :
    ∃ es₂, takeEvaluation d t es₁ x = .ok es₂ := by
  rw [takeEvaluation] at h ⊢
  split at h
  · exact ⟨es₁, rfl⟩
  · split at h
    · split at h
      · exact ⟨_, rfl⟩
      · cases h
    · exact ⟨es₁, rfl⟩

theorem foldlM_ok_iff : (∃ es', xs.foldlM (takeEvaluation d t) es = .ok es') ↔
    ∀ x ∈ xs, ∀ es, ∃ es', takeEvaluation d t es x = .ok es' := by
  induction xs generalizing es with
  | nil => exact ⟨fun _ x hx => absurd hx List.not_mem_nil, fun _ => ⟨es, rfl⟩⟩
  | cons x xs ih =>
    rw [List.forall_mem_cons, List.foldlM_cons]
    constructor
    · rintro ⟨es', h⟩
      cases htake : takeEvaluation d t es x with
      | error f => simp [htake, bind, Except.bind] at h
      | ok es'' =>
        rw [htake] at h
        exact ⟨takeEvaluation_ok htake, ih.mp ⟨es', h⟩⟩
    · rintro ⟨hx, hxs⟩
      obtain ⟨es'', htake⟩ := hx es
      rw [htake]
      exact ih.mpr hxs

/-- Whether the evaluations can be gathered does not depend on the order of the directories. -/
theorem gather_perm (hp : xs.Perm ys) (h : gather d t ys = .ok es) : ∃ es', gather d t xs = .ok es' := by
  refine foldlM_ok_iff.mpr fun x hx => ?_
  exact foldlM_ok_iff.mp ⟨es, h⟩ x (hp.mem_iff.mp hx)

theorem gather_children (h : evaluations d t = .ok es) : gather d t (t.children d.location) = .ok es := by
  rw [gather, ← evaluations_eq_foldlM (root_of_evaluations h), h]

/-! ### The endpoint's own directory -/

/-- A directory that has a checklist is listed. -/
theorem mem_children_of_checklistIn? (hs : t.Sound) (hd : t.Distinct)
    (h : checklistIn? d t name = some e) : (name, .directory) ∈ t.children d.location := by
  have hfile : t.find? (d.location ++ [name, Layout.manualEvaluation]) ≠ none := by
    intro hnone
    rw [checklistIn?, hnone] at h
    cases h
  refine (Tree.mem_children_iff hd).mpr (hs _ hfile (d.location ++ [name]) ?_ (by simp))
  exact ⟨[Layout.manualEvaluation], by simp⟩

/-- What a directory listed anywhere has for an endpoint. -/
theorem mem_checklists (hs : t.Sound) (hd : t.Distinct) (hp : xs.Perm (t.children d.location)) :
    e ∈ xs.filterMap (checklistFor? d t id) ↔
      ∃ name, Layout.number? name "endpoint" = some id ∧ checklistIn? d t name = some e := by
  rw [List.mem_filterMap]
  constructor
  · rintro ⟨x, -, hx⟩
    rw [checklistFor?] at hx
    split at hx
    · next hn => exact ⟨x.1, hn, hx⟩
    · cases hx
  · rintro ⟨name, hn, he⟩
    refine ⟨(name, .directory), hp.mem_iff.mpr (mem_children_of_checklistIn? hs hd he), ?_⟩
    rw [checklistFor?, if_pos hn, he]

/-- Any of the directories can be listed last. -/
theorem exists_perm_concat {α : Type} {x : α} {xs : List α} (h : x ∈ xs) :
    ∃ ys, (ys ++ [x]).Perm xs := by
  obtain ⟨front, back, rfl⟩ := List.append_of_mem h
  refine ⟨front ++ back, ?_⟩
  have hlast : (back ++ [x]).Perm (x :: back) := List.perm_append_comm
  rw [List.append_assoc]
  exact hlast.append_left front

/-- Where the checklists of an endpoint say the same, it does not matter which of them is found last. -/
theorem lookup_eq_some_iff (hs : t.Sound) (hd : t.Distinct) (hp : xs.Perm (t.children d.location))
    (hg : gather d t xs = .ok es) (hown : Undisputed d t id) :
    es.lookup id = some e ↔
      ∃ name, Layout.number? name "endpoint" = some id ∧ checklistIn? d t name = some e := by
  rw [lookup_gather hg]
  constructor
  · exact fun hlast => (mem_checklists hs hd hp).mp (List.mem_of_getLast? hlast)
  · rintro ⟨name, hn, he⟩
    have hmem := (mem_checklists hs hd hp).mpr ⟨name, hn, he⟩
    cases hlast : (xs.filterMap (checklistFor? d t id)).getLast? with
    | none =>
      rw [List.getLast?_eq_none_iff.mp hlast] at hmem
      cases hmem
    | some e' =>
      obtain ⟨name', hn', he'⟩ := (mem_checklists hs hd hp).mp (List.mem_of_getLast? hlast)
      rw [← hown name' e' hn' he', hown name e hn he]

theorem lookup_eq_own (hs : t.Sound) (hd : t.Distinct) (h0 : 0 < id) (hid : id ≤ Decimal.max32)
    (hp : xs.Perm (t.children d.location)) (hg : gather d t xs = .ok es) (hown : Undisputed d t id) :
    es.lookup id = checklistIn? d t (Layout.endpointName id) := by
  refine Option.ext fun e => (lookup_eq_some_iff hs hd hp hg hown).trans ⟨?_, fun he => ?_⟩
  · rintro ⟨name, hn, he⟩
    exact hown name e hn he
  · exact ⟨_, Layout.number?_own_endpointName h0 hid, he⟩

theorem overlaid_congr (h : ∀ id, es'.lookup id = es.lookup id) (header : List String) (at_ : Nat)
    (cells : List String) : overlaid header es' at_ cells = overlaid header es at_ cells := by
  simp only [overlaid, evaluationOf?, h]

end Report

/-! ### Evaluations of endpoints -/

open Report

/-- If evaluations can be gathered they can be gathered in any order of the listing, and an endpoint is
always given the checklist of a directory of its number.  Whatever the order, an endpoint is given the
checklist of its own directory and none if there is none there, exactly if no directory of its number has
a checklist that says something else.  Where this holds of every endpoint, no row of the results table
depends on the order. -/
theorem evaluations_own_iff {d : ResultsDir} {t : Tree} {es : List (Nat × Evaluation)} (hs : t.Sound)
    (hd : t.Distinct) (h : evaluations d t = .ok es) :
    gather d t (t.children d.location) = .ok es ∧
    (∀ xs, xs.Perm (t.children d.location) → ∃ es', gather d t xs = .ok es' ∧
      ∀ id e, es'.lookup id = some e →
        ∃ name, Layout.number? name "endpoint" = some id ∧ checklistIn? d t name = some e) ∧
    (∀ id, 0 < id → id ≤ Decimal.max32 →
      ((∀ xs es', xs.Perm (t.children d.location) → gather d t xs = .ok es' →
        es'.lookup id = checklistIn? d t (Layout.endpointName id)) ↔ Undisputed d t id)) ∧
    ((∀ id, Undisputed d t id) →
      ∀ xs es', xs.Perm (t.children d.location) → gather d t xs = .ok es' →
        ∀ header at_ cells, overlaid header es' at_ cells = overlaid header es at_ cells) := by
  have hg := gather_children h
  refine ⟨hg, fun xs hp => ?_, fun id h0 hid => ⟨fun hall name e hn he => ?_, fun hown xs es' hp hg' =>
    lookup_eq_own hs hd h0 hid hp hg' hown⟩, fun hown xs es' hp hg' header at_ cells => ?_⟩
  · obtain ⟨es', hg'⟩ := gather_perm hp hg
    refine ⟨es', hg', fun id e he => ?_⟩
    rw [lookup_gather hg'] at he
    exact (mem_checklists hs hd hp).mp (List.mem_of_getLast? he)
  · obtain ⟨xs, hp⟩ := exists_perm_concat (mem_children_of_checklistIn? hs hd he)
    obtain ⟨es', hg'⟩ := gather_perm hp hg
    have hlast : es'.lookup id = some e := by
      rw [lookup_gather hg', List.filterMap_append, List.filterMap_cons, checklistFor?, if_pos hn, he]
      simp
    rw [← hall _ es' hp hg', hlast]
  · refine overlaid_congr (fun id => Option.ext fun e => ?_) header at_ cells
    exact (lookup_eq_some_iff hs hd hp hg' (hown id)).trans
      (lookup_eq_some_iff hs hd (.refl _) hg (hown id)).symm

theorem evaluations_own_iff_checked : ∃ es, evaluations sampleDir checkedTree = .ok es ∧
    ∀ xs es', xs.Perm (checkedTree.children ["results"]) → gather sampleDir checkedTree xs = .ok es' →
      es'.lookup 3 = some ⟨[("targets_correct_endpoint", "Yes")]⟩ := by
  have hd : checkedTree.Distinct := by
    rw [Tree.Distinct]
    decide
  have hok : (evaluations sampleDir checkedTree).isOk = true := by decide
  cases hes : evaluations sampleDir checkedTree with
  | error f =>
    rw [hes] at hok
    cases hok
  | ok es =>
    refine ⟨es, rfl, fun xs es' hp hg => ?_⟩
    have howner : Undisputed sampleDir checkedTree 3 := by
      intro name e _ he
      have hmem := mem_children_of_checklistIn? sound_checkedTree hd he
      have hlisted : checkedTree.children sampleDir.location =
          [("endpoint_03", .directory), (Layout.resultsTable,
            .file "endpoint_id,targets_correct_endpoint\n3,N/A\n4,N/A\n".toUTF8 false)] := rfl
      rw [hlisted] at hmem
      simp only [List.mem_cons, Prod.mk.injEq, reduceCtorEq, and_true, and_false, List.not_mem_nil,
        or_false] at hmem
      rw [hmem] at he
      exact he
    obtain ⟨-, -, hiff, -⟩ := evaluations_own_iff sound_checkedTree hd hes
    rw [(hiff 3 (by decide) (by decide)).mpr howner xs es' hp hg]
    decide +kernel

/-- A results directory where the endpoint 9 has a checklist in another directory only, and the endpoint
3 one in its own and one in another. -/
def respelledTree : Tree := ⟨[
  (["results"], .directory),
  (["results", "endpoint_9"], .directory),
  (["results", "endpoint_9", Layout.manualEvaluation],
    .file "Targets the correct endpoint: [x] Yes".toUTF8 false),
  (["results", "endpoint_03"], .directory),
  (["results", "endpoint_03", Layout.manualEvaluation],
    .file "Targets the correct endpoint: [x] Yes".toUTF8 false),
  (["results", "endpoint_3"], .directory),
  (["results", "endpoint_3", Layout.manualEvaluation],
    .file "Targets the correct endpoint: [x] No".toUTF8 false)]⟩

/-- An endpoint without a checklist of its own is given that of another directory, and of two checklists
it is given the one that is listed last. -/
theorem evaluations_not_own : respelledTree.Sound ∧ respelledTree.Distinct ∧
    (evaluations sampleDir respelledTree).map (List.lookup 9) =
      .ok (some ⟨[("targets_correct_endpoint", "Yes")]⟩) ∧
    respelledTree.find? ["results", Layout.endpointName 9, Layout.manualEvaluation] = none ∧
    (evaluations sampleDir respelledTree).map (List.lookup 3) =
      .ok (some ⟨[("targets_correct_endpoint", "No")]⟩) ∧
    checklistIn? sampleDir respelledTree (Layout.endpointName 3) =
      some ⟨[("targets_correct_endpoint", "Yes")]⟩ ∧
    (gather sampleDir respelledTree (respelledTree.children ["results"]).reverse).map (List.lookup 3) =
      .ok (some ⟨[("targets_correct_endpoint", "Yes")]⟩) := by
  refine ⟨Tree.sound_of_entries (by decide), ?_, ?_, rfl, ?_, ?_, ?_⟩
  · rw [Tree.Distinct]
    decide
  · decide +kernel
  · decide +kernel
  · decide +kernel
  · decide +kernel

end SuiteBench
