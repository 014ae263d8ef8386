import SuiteBench.Proofs.Store.Ownership
import SuiteBench.Proofs.Store.Sparing

/-!
# Proofs.Store.Atomicity — what a save leaves that was stopped

A save replaces two documents, each at once, one after the other.  Stopped anywhere, it leaves the
documents as they were, or both new, or the new metrics beside the exit status that stood there.  The
last is told from a record wherever no exit status of the run was there before.
-/

namespace SuiteBench

namespace Step

variable {t u v : Tree} {l m : Location} {c : ByteArray}

/-! ### Front parts of lists of steps -/

/-- A front part of some steps and others is one of the former, or all of these and a front part of the
latter. -/
theorem run_take_append (t : Tree) (a b : List Step) (n : Nat) :
    (run t ((a ++ b).take n)).1 = (run t (a.take n)).1 ∨
      ∃ v k, run t a = (v, none) ∧ (run t ((a ++ b).take n)).1 = (run v (b.take k)).1 := by
  by_cases hn : n ≤ a.length
  · exact .inl (by rw [List.take_append_of_le_length hn])
  · rw [List.take_append, List.take_of_length_le (by omega)]
    cases h : run t (a ++ b.take (n - a.length)) with
    | mk u e =>
      rcases run_append_cases h with ⟨v, hv, hu⟩ | ⟨e', hu⟩
      · exact .inr ⟨v, _, hv, by rw [hu]⟩
      · exact .inl (by rw [hu])

/-- Replacing a file is done wholly or leaves at most the hidden neighbour behind. -/
theorem run_take_replace (t : Tree) (l : Location) (c : ByteArray) (n : Nat) :
    run t (replace l c) = ((run t ((replace l c).take n)).1, none) ∨
      ∀ m, ¬ hidden l <+: m → (run t ((replace l c).take n)).1.find? m = t.find? m := by
  match n with
  | 0 => exact .inr fun _ _ => rfl
  | 1 =>
    refine .inr fun m hm => find?_run fun s hs ht => hm ?_
    rw [replace_eq, List.take_succ_cons, List.take_zero] at hs
    obtain rfl := List.mem_singleton.mp hs
    rw [show m = hidden l from ht]
  | n + 2 =>
    rw [List.take_of_length_le (by simp [replace_eq])]
    cases h : run t (replace l c) with
    | mk u e =>
      cases e with
      | none => exact .inl rfl
      | some e => exact .inr fun m hm => find?_replace_cut h hm

end Step

namespace Store

variable {d : ResultsDir} {t u v w : Tree} {k : RunKey} {r : RunRecord}

/-! ### How far a save came -/

/-- How far a save came with the documents of its run. -/
inductive Progress (d : ResultsDir) (t u : Tree) (r : RunRecord) : Prop
  | untouched (metrics : u.read (metricsAt d r.key) = t.read (metricsAt d r.key))
      (status : u.read (statusAt d r.key) = t.read (statusAt d r.key))
  | between (metrics : u.read (metricsAt d r.key) = .ok r.metrics.toJson.fileText)
      (status : u.read (statusAt d r.key) = t.read (statusAt d r.key))
  | complete (holds : Holds d u r)

/-- A document is read as before where nothing changed but the hidden neighbour of one. -/
theorem read_of_hidden {name base : String} (hname : name.toList.head? ≠ some '.')
    (h : ∀ m, ¬ Step.hidden (d.runLocation k ++ [base]) <+: m → u.find? m = t.find? m) :
    u.read (d.runLocation k ++ [name]) = t.read (d.runLocation k ++ [name]) := by
  refine Tree.read_congr fun p hp => h p fun hh => ?_
  rw [Step.hidden_concat] at hh
  have he := (hh.trans hp).eq_of_length (by simp)
  exact Step.hiddenName_ne hname (List.singleton_inj.mp (List.append_cancel_left he))

/-- A document is read as before when the other one is replaced. -/
theorem read_of_replace {name base : String} (hname : name.toList.head? ≠ some '.')
    (hne : base ≠ name) {c : ByteArray} {e : Option FileError}
    (h : Step.run t (Step.replace (d.runLocation k ++ [base]) c) = (u, e)) :
    u.read (d.runLocation k ++ [name]) = t.read (d.runLocation k ++ [name]) :=
  Tree.read_congr fun _ hp => Step.find?_replace_sibling h hne (Step.hiddenName_ne hname) hp

theorem progress_replace (n : Nat) : Progress d t (Step.run t
    ((Step.replace (metricsAt d r.key) r.metrics.toJson.fileText ++
      Step.replace (statusAt d r.key) r.exitStatus.toJson.fileText).take n)).1 r := by
  have hm : Layout.resourceMetrics.toList.head? ≠ some '.' := by decide
  have hs : Layout.exitStatus.toList.head? ≠ some '.' := by decide
  rcases Step.run_take_append t (Step.replace (metricsAt d r.key) r.metrics.toJson.fileText)
    (Step.replace (statusAt d r.key) r.exitStatus.toJson.fileText) n with hu | ⟨w, k, hw, hu⟩
  · rw [hu]
    rcases Step.run_take_replace t (metricsAt d r.key) r.metrics.toJson.fileText n with hw | hsame
    · exact .between (Step.run_replace hw (metricsAt_ne_nil d r.key)).1
        (read_of_replace hs (by decide) hw)
    · exact .untouched (read_of_hidden hm hsame) (read_of_hidden hs hsame)
  · rw [hu]
    have hmw := (Step.run_replace hw (metricsAt_ne_nil d r.key)).1
    have hsw : w.read (statusAt d r.key) = t.read (statusAt d r.key) :=
      read_of_replace hs (by decide) hw
    rcases Step.run_take_replace w (statusAt d r.key) r.exitStatus.toJson.fileText k with hv | hsame
    · exact .complete ⟨(read_of_replace hm (by decide) hv).trans hmw,
        (Step.run_replace hv (statusAt_ne_nil d r.key)).1⟩
    · exact .between ((read_of_hidden hm hsame).trans hmw) ((read_of_hidden hs hsame).trans hsw)

/-- A document is read as before when the directory of its run is made. -/
theorem read_of_makeDirs (ht : t.Sound) (hv : t.makeDirs (d.runLocation k) = .ok v) (name : String) :
    v.read (d.runLocation k ++ [name]) = t.read (d.runLocation k ++ [name]) :=
  ht.read_makeDirs hv fun hl => by
    have := hl.length_le
    simp at this

theorem Progress.of_makeDirs (ht : t.Sound) (hv : t.makeDirs (d.runLocation r.key) = .ok v)
    (h : Progress d v u r) : Progress d t u r := by
  have hread := read_of_makeDirs ht hv
  cases h with
  | untouched hm hs => exact .untouched (hm.trans (hread _)) (hs.trans (hread _))
  | between hm hs => exact .between hm (hs.trans (hread _))
  | complete h => exact .complete h

theorem progress_take (ht : t.Sound) (r : RunRecord) (n : Nat) :
    Progress d t (Step.run t ((saveSteps d r).take n)).1 r := by
  cases n with
  | zero => exact .untouched rfl rfl
  | succ n =>
    rw [saveSteps_eq, List.take_succ_cons]
    cases hv : t.makeDirs (d.runLocation r.key) with
    | error e =>
      rw [Step.run, Step.apply, hv]
      exact .untouched rfl rfl
    | ok v =>
      rw [Step.run_cons_ok (s := .makeDirs (d.runLocation r.key)) hv]
      exact (progress_replace n).of_makeDirs ht hv

/-- The trees that a save leaves when it fails or is stopped after some of its steps. -/
def LeftBySave (d : ResultsDir) (t : Tree) (r : RunRecord) (u : Tree) : Prop :=
  (∃ e, Claims.save r.key d t r = (u, some e)) ∨
    ∃ n, u = (Step.run t ((saveSteps d r).take n)).1

theorem LeftBySave.progress (ht : t.Sound) (h : LeftBySave d t r u) : Progress d t u r := by
  rcases h with ⟨e, he⟩ | ⟨n, rfl⟩
  · have hu : u = (Step.run t ((saveSteps d r).take (saveSteps d r).length)).1 := by
      rw [Claims.save, if_pos rfl] at he
      rw [List.take_length]
      exact (congrArg Prod.fst he).symm
    rw [hu]
    exact progress_take ht r _
  · exact progress_take ht r n

/-! ### What is loaded afterwards -/

/-- A run without any record has no first document. -/
theorem read_metrics_of_load_none (h : load d t k = .ok none) :
    t.read (metricsAt d k) = .error .notFound := by
  cases hm : readDocument t (d.runLocation k ++ [Layout.resourceMetrics])
      ((d.runDir k).join Layout.resourceMetrics) ResourceMetrics.ofJson? with
  | error e => simp [load, hm, bind, Except.bind] at h
  | ok m =>
    cases m with
    | none =>
      rw [readDocument] at hm
      split at hm
      · assumption
      · cases hm
      · split at hm <;> cases hm
    | some m =>
      cases hs : readDocument t (d.runLocation k ++ [Layout.exitStatus])
          ((d.runDir k).join Layout.exitStatus) ExitStatus.ofJson? with
      | error e => simp [load, hm, hs, bind, Except.bind] at h
      | ok s =>
        cases s with
        | none => simp [load, hm, hs, bind, Except.bind] at h
        | some s =>
          cases hj : RunRecord.ofHalves m s <;>
            simp [load, hm, hs, bind, Except.bind, Except.mapError, Except.map, hj] at h

theorem statusOf?_of_read (hs : t.read (statusAt d k) = .ok r.exitStatus.toJson.fileText)
    (hr : r.Fits) : statusOf? d t k = some r.exitStatus := by
  rw [statusOf?, hs]
  simp only [Except.toOption, Option.bind_some]
  rw [Json.ofBytes?_fileText (ExitStatus.plain_toJson hr), Option.bind_some,
    ExitStatus.ofJson?_toJson hr]

/-- The record that the metrics of `r` make up with the exit status of another. -/
def mixed (r : RunRecord) (s : ExitStatus) : RunRecord :=
  { r with
    exitCode := s.exitCode, timedOut := s.timedOut, status := s.status, diagnosis := s.diagnosis
    message := s.message, errorCounts := s.errorCounts }

theorem ofHalves_mixed {s : ExitStatus} (h : s.key = r.key) :
    RunRecord.ofHalves r.metrics s = .ok (mixed r s) := by
  rw [RunRecord.ofHalves, if_pos (show r.metrics.key = s.key from h.symm)]
  rfl

/-- Between the two documents a run can be loaded only with the exit status that stood there. -/
theorem load_between (hm : u.read (metricsAt d r.key) = .ok r.metrics.toJson.fileText)
    (hs : u.read (statusAt d r.key) = t.read (statusAt d r.key)) :
    (∃ e, load d u r.key = .error e) ∨
      ∃ x s, load d u r.key = .ok (some x) ∧ statusOf? d t r.key = some s := by
  cases hl : load d u r.key with
  | error e => exact .inl ⟨e, rfl⟩
  | ok x =>
    cases x with
    | none =>
      rw [read_metrics_of_load_none hl] at hm
      cases hm
    | some x =>
      obtain ⟨m, s, -, hstat, -⟩ := load_eq_some_iff.mp hl
      rw [statusOf?, hs] at hstat
      exact .inr ⟨x, s, rfl, hstat⟩

theorem load_mixed (hr : r.Fits) (hf : ∀ x ∈ r.figures, Json.ReadsBack x)
    (hm : u.read (metricsAt d r.key) = .ok r.metrics.toJson.fileText)
    (hs : u.read (statusAt d r.key) = t.read (statusAt d r.key)) {x : RunRecord} :
    load d u r.key = .ok (some x) ↔
      ∃ s, statusOf? d t r.key = some s ∧ s.key = r.key ∧ x = mixed r s := by
  have hstat : statusOf? d u r.key = statusOf? d t r.key := by rw [statusOf?, statusOf?, hs]
  simp only [load_eq_some_iff, metricsOf?_of_read hm hr hf, hstat, Option.some.injEq]
  constructor
  · rintro ⟨_, s, rfl, hst, hj⟩
    by_cases hk : s.key = r.key
    · rw [ofHalves_mixed hk] at hj
      exact ⟨s, hst, hk, (Except.ok.inj hj).symm⟩
    · rw [RunRecord.ofHalves, if_neg fun h : r.metrics.key = s.key => hk h.symm] at hj
      cases hj
  · rintro ⟨s, hst, hk, rfl⟩
    exact ⟨_, s, rfl, hst, ofHalves_mixed hk⟩

/-- What is loaded after a save that did not come to its end. -/
theorem load_of_progress (hr : r.Fits) (hf : ∀ x ∈ r.figures, Json.ReadsBack x)
    (h : Progress d t u r) : load d u r.key = load d t r.key ∨
      (∃ e, load d u r.key = .error e) ∨ load d u r.key = .ok (some r.stored) ∨
      ∃ s, statusOf? d t r.key = some s ∧ s.key = r.key ∧ load d u r.key = .ok (some (mixed r s)) := by
  cases h with
  | untouched hm hs => exact .inl (load_congr hm hs)
  | between hm hs =>
    rcases load_between hm hs with he | ⟨x, -, hx, -⟩
    · exact .inr (.inl he)
    · obtain ⟨s, hst, hk, rfl⟩ := (load_mixed hr hf hm hs).mp hx
      exact .inr (.inr (.inr ⟨s, hst, hk, hx⟩))
  | complete h => exact .inr (.inr (.inl (load_of_documents h.1 h.2 hr hf)))

theorem statusOf?_of_vacant (h : Vacant d t k) : statusOf? d t k = none := by
  rw [statusOf?]
  cases hs : t.read (statusAt d k) with
  | error e => rfl
  | ok c =>
    obtain ⟨-, x, hf⟩ := Tree.read_eq_ok_iff.mp hs
    rw [h (statusAt d k) (List.prefix_append _ _)] at hf
    cases hf

/-- Where the directory of a run was cleared first, a save that is stopped never leaves a mixed record. -/
theorem stored_of_vacant (ht : t.Sound) (hv : Vacant d t r.key) (hr : r.Fits)
    (hf : ∀ x ∈ r.figures, Json.ReadsBack x) (hu : LeftBySave d t r u) {x : RunRecord}
    (hx : load d u r.key = .ok (some x)) : x = r.stored := by
  rcases load_of_progress hr hf (hu.progress ht) with hl | ⟨e, hl⟩ | hl | ⟨s, hs, -, -⟩
  · have hno := hasRecord_of_vacant hv
    rw [hasRecord, ← hl, hx] at hno
    cases hno
  · rw [hl] at hx
    cases hx
  · rw [hl] at hx
    cases hx
    rfl
  · rw [statusOf?_of_vacant hv] at hs
    cases hs

end Store

end SuiteBench
