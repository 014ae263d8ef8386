import SuiteBench.Proofs.Store.Ownership
import SuiteBench.Proofs.Store.Paths

/-!
# Proofs.Store.Listing — which directories are listed, and with which record

Every directory whose name carries a number is listed, in the order of the numbers, but the record it
is listed with stands in the directory that the store itself gives to the run.  The two are the same
where all run directories have the names that the store gives them, and the store makes no other.
-/

namespace SuiteBench

attribute [ext] RunKey

namespace Tree

variable {t u : Tree} {l m : Location} {a : String} {e : Entry}

/-! ### Trees with one entry at a location -/

/-- Whether no location has two entries. -/
def Distinct (t : Tree) : Prop := (t.entries.map Prod.fst).Nodup

instance (t : Tree) : Decidable t.Distinct := inferInstanceAs (Decidable (List.Nodup _))

theorem distinct_empty : empty.Distinct := List.nodup_nil

theorem distinct_set (h : t.Distinct) (l : Location) (e : Entry) : (t.set l e).Distinct := by
  have hrest : ((t.entries.filter fun x => x.1 != l).map Prod.fst).Nodup :=
    h.sublist (List.filter_sublist.map _)
  have hnew : l ∉ (t.entries.filter fun x => x.1 != l).map Prod.fst := by simp
  rw [Distinct, set, List.map_append, List.map_singleton, ← List.concat_eq_append]
  exact hrest.concat hnew

theorem distinct_cut (h : t.Distinct) (l : Location) : (t.cut l).Distinct :=
  h.sublist (List.filter_sublist.map _)

theorem distinct_foldlM_makeDir : ∀ (ps : List Location) {t u : Tree},
    ps.foldlM makeDir t = .ok u → t.Distinct → u.Distinct
  | [], _, _, h, ht => by
    cases h
    exact ht
  | p :: ps, t, _, h, ht => by
    rw [List.foldlM_cons] at h
    cases hp : t.makeDir p with
    | error e => rw [hp] at h; cases h
    | ok v =>
      rw [hp] at h
      refine distinct_foldlM_makeDir ps h ?_
      unfold makeDir at hp
      split at hp
      · cases hp
        exact ht
      · cases hp
      · cases hp
        exact distinct_set ht p _

theorem distinct_makeDirs (ht : t.Distinct) (h : t.makeDirs l = .ok u) : u.Distinct := by
  rw [makeDirs_eq] at h
  split at h
  · cases h
    exact ht
  · cases h
  · exact distinct_foldlM_makeDir _ h ht

end Tree

namespace Step

variable {t u : Tree} {s : Step}

theorem distinct_apply (ht : t.Distinct) (h : s.apply t = .ok u) : u.Distinct := by
  cases s with
  | makeDirs l => exact Tree.distinct_makeDirs ht h
  | write l c =>
    obtain ⟨-, x, rfl⟩ := apply_write h
    exact Tree.distinct_set ht l _
  | rename a b =>
    obtain ⟨-, -, e, -, rfl⟩ := apply_rename h
    exact Tree.distinct_set (Tree.distinct_cut ht a) b e
  | remove l =>
    obtain ⟨-, rfl⟩ := apply_remove h
    exact Tree.distinct_cut ht l

theorem distinct_run (ht : t.Distinct) (steps : List Step) : (run t steps).1.Distinct :=
  run_induction steps (fun _ _ _ _ ha hv => distinct_apply hv ha) ht

end Step

namespace Tree

variable {t u : Tree} {l m : Location} {a : String} {e : Entry}

/-! ### The names in a directory -/

theorem get_concat_eq_ok_iff :
    t.get (l ++ [a]) = .ok e ↔ t.get l = .ok .directory ∧ t.find? (l ++ [a]) = some e := by
  rw [get_eq_ok_iff, get_eq_ok_iff, List.dropLast_concat, obstacle?_eq_none_iff,
    obstacle?_eq_none_iff]
  refine and_congr_left fun _ => ⟨fun h => ?_, fun h p hp => ?_⟩
  · exact ⟨fun p hp => h p (hp.trans (List.dropLast_prefix l)), h l (List.prefix_refl l)⟩
  · by_cases hpl : p = l
    · rw [hpl, h.2]
    · exact h.1 p (prefix_dropLast hp hpl)

/-- Which entries stand directly below a location, and under which names. -/
theorem child_eq_some_iff {k : Location} {x : String × Entry} :
    (if k.dropLast == l then k.getLast?.map fun n => (n, e) else none) = some x ↔
      k = l ++ [x.1] ∧ e = x.2 := by
  constructor
  · intro h
    split at h
    · next hl =>
      obtain ⟨n, hn, rfl⟩ := Option.map_eq_some_iff.mp h
      obtain ⟨l', rfl⟩ := List.getLast?_eq_some_iff.mp hn
      rw [← eq_of_beq hl, List.dropLast_concat]
      exact ⟨rfl, rfl⟩
    · cases h
  · rintro ⟨rfl, rfl⟩
    simp

theorem mem_children_iff (ht : t.Distinct) :
    (a, e) ∈ t.children l ↔ t.find? (l ++ [a]) = some e := by
  rw [find?_of_ne_nil _ (by simp), lookup_eq_some_iff_mem ht, children, List.mem_filterMap]
  constructor
  · rintro ⟨⟨k, e'⟩, hm, hk⟩
    obtain ⟨rfl, rfl⟩ := child_eq_some_iff.mp hk
    exact hm
  · intro hm
    exact ⟨_, hm, child_eq_some_iff.mpr ⟨rfl, rfl⟩⟩

/-- There is nothing in what is not there. -/
theorem children_of_none (ht : t.Distinct) (hs : t.Sound) (hl : t.find? l = none) :
    t.children l = [] := by
  refine List.eq_nil_iff_forall_not_mem.mpr fun x hx => ?_
  have hx := (mem_children_iff ht).mp hx
  rw [hs _ (by simp [hx]) l (List.prefix_append l [x.1]) (by simp)] at hl
  cases hl

theorem pairwise_children (ht : t.Distinct) (l : Location) :
    (t.children l).Pairwise fun x y => x.1 ≠ y.1 := by
  refine List.Pairwise.filterMap _ ?_ (List.pairwise_map.mp ht)
  rintro ⟨k, e⟩ ⟨k', e'⟩ hne x hx y hy hxy
  obtain ⟨hk, -⟩ := child_eq_some_iff.mp hx
  obtain ⟨hk', -⟩ := child_eq_some_iff.mp hy
  exact hne (by rw [hk, hk', hxy])

theorem list_eq_ok_iff {children : List (String × Entry)} :
    t.list l = .ok children ↔ t.get l = .ok .directory ∧ t.children l = children := by
  rw [list]
  split
  · next h => simp [h]
  · next h => simp [h]
  · next h => simp [h]

end Tree

namespace Store

variable {d : ResultsDir} {t u : Tree} {k : RunKey} {l : Location} {stem : String}

/-! ### Numbered directories -/

/-- Whether `ns` are the directories below `l` whose names carry a number, in the order of the
numbers. -/
structure Numbering (t : Tree) (l : Location) (stem : String) (ns : List (Nat × String)) : Prop where
  ascending : ns.Pairwise fun x y => x.1 ≤ y.1
  names : ns.Pairwise fun x y => x.2 ≠ y.2
  mem_iff : ∀ n a, (n, a) ∈ ns ↔
    t.get (l ++ [a]) = .ok .directory ∧ Layout.number? a stem = some n

theorem numbering_nil (h : ∀ a, t.get (l ++ [a]) ≠ .ok .directory) : Numbering t l stem [] where
  ascending := List.Pairwise.nil
  names := List.Pairwise.nil
  mem_iff n a := by simp [h a]

/-- Which of the things in a directory are listed, and under which numbers. -/
theorem numbered_eq_some_iff {name : String} {e : Entry} {x : Nat × String} :
    (if e.isDirectory then (Layout.number? name stem).map fun n => (n, name) else none) = some x ↔
      e = .directory ∧ x.2 = name ∧ Layout.number? name stem = some x.1 := by
  cases e with
  | file c x => simp [Entry.isDirectory]
  | directory =>
    rw [if_pos (show Entry.directory.isDirectory = true from rfl), Option.map_eq_some_iff]
    constructor
    · rintro ⟨n, hn, rfl⟩
      exact ⟨rfl, rfl, hn⟩
    · rintro ⟨-, rfl, hn⟩
      exact ⟨x.1, hn, rfl⟩

theorem isDirectory_of_numbered {x : String × Entry}
    (h : (if x.2.isDirectory then (Layout.number? x.1 stem).map fun n => (n, x.1) else none) ≠ none) :
    x.2 = .directory := by
  obtain ⟨y, hy⟩ := Option.ne_none_iff_exists'.mp h
  exact (numbered_eq_some_iff.mp hy).1

theorem numbering_children (ht : t.Distinct) (hl : t.get l = .ok .directory) :
    Numbering t l stem (((t.children l).filterMap fun (name, e) =>
      if e.isDirectory then (Layout.number? name stem).map fun n => (n, name) else none).mergeSort
        fun a b => a.1 ≤ b.1) where
  ascending := by
    have htrans : ∀ a b c : Nat × String, decide (a.1 ≤ b.1) = true → decide (b.1 ≤ c.1) = true →
        decide (a.1 ≤ c.1) = true := fun a b c hab hbc => by
      rw [decide_eq_true_eq] at *
      exact hab.trans hbc
    have htotal : ∀ a b : Nat × String, (decide (a.1 ≤ b.1) || decide (b.1 ≤ a.1)) = true :=
      fun a b => by simpa using le_total a.1 b.1
    exact (List.pairwise_mergeSort htrans htotal _).imp of_decide_eq_true
  names := by
    refine (List.mergeSort_perm _ _).symm.pairwise ?_ fun h => h.symm
    refine List.Pairwise.filterMap _ ?_ (Tree.pairwise_children ht l)
    rintro ⟨a, e⟩ ⟨a', e'⟩ hne x hx y hy hxy
    obtain ⟨-, hxa, -⟩ := numbered_eq_some_iff.mp hx
    obtain ⟨-, hya, -⟩ := numbered_eq_some_iff.mp hy
    exact hne (by rw [← hxa, hxy, hya])
  mem_iff n a := by
    rw [List.mem_mergeSort, List.mem_filterMap, Tree.get_concat_eq_ok_iff]
    constructor
    · rintro ⟨⟨name, e⟩, hm, he⟩
      obtain ⟨rfl, rfl, hn⟩ := numbered_eq_some_iff.mp he
      exact ⟨⟨hl, (Tree.mem_children_iff ht).mp hm⟩, hn⟩
    · rintro ⟨⟨-, hf⟩, hn⟩
      exact ⟨_, (Tree.mem_children_iff ht).mpr hf, numbered_eq_some_iff.mpr ⟨rfl, rfl, hn⟩⟩

/-- The directories that carry a number are listed unless the directory cannot be read. -/
theorem numbered_cases (ht : t.Distinct) (l : Location) (stem : String) :
    (∃ f, t.list l = .error f ∧ f ≠ .notFound ∧ numbered t l stem = .error (.file f)) ∨
      ∃ ns, numbered t l stem = .ok ns ∧ Numbering t l stem ns := by
  rw [numbered]
  cases hl : t.list l with
  | error f =>
    have hn : ∀ a, t.get (l ++ [a]) ≠ .ok .directory := by
      intro a ha
      have := Tree.list_eq_ok_iff.mpr ⟨(Tree.get_concat_eq_ok_iff.mp ha).1, rfl⟩
      rw [hl] at this
      cases this
    cases f with
    | notFound => exact .inr ⟨[], rfl, numbering_nil hn⟩
    | _ => exact .inl ⟨_, rfl, by decide, rfl⟩
  | ok children =>
    obtain ⟨hg, rfl⟩ := Tree.list_eq_ok_iff.mp hl
    exact .inr ⟨_, rfl, numbering_children ht hg⟩

/-! ### Runs -/

/-- The document in a file, if it can be decoded. -/
def documentAt {α : Type} (t : Tree) (l : Location) (decode : Json → Option α) : Option α :=
  (t.read l).toOption.bind fun bytes => (Json.ofBytes? bytes).bind decode

/-- The record that the documents in a directory make up, if they can be read and name one run. -/
def recordIn (t : Tree) (l : Location) : Option RunRecord :=
  (documentAt t (l ++ [Layout.resourceMetrics]) ResourceMetrics.ofJson?).bind fun m =>
    (documentAt t (l ++ [Layout.exitStatus]) ExitStatus.ofJson?).bind fun s =>
      (RunRecord.ofHalves m s).toOption

theorem toOption_eq_some_iff {ε α : Type} {x : Except ε α} {a : α} :
    x.toOption = some a ↔ x = .ok a := by
  cases x <;> simp [Except.toOption]

/-- The record that is loaded for a run is the one in the directory that the store gives to it. -/
theorem recordIn_runLocation (d : ResultsDir) (t : Tree) (k : RunKey) :
    recordIn t (d.runLocation k) = (load d t k).toOption.join := by
  ext r
  rw [Option.join_eq_some_iff, toOption_eq_some_iff, load_eq_some_iff]
  simp only [recordIn, Option.bind_eq_some_iff, toOption_eq_some_iff]
  constructor
  · rintro ⟨m, hm, s, hs, hr⟩
    exact ⟨m, s, hm, hs, hr⟩
  · rintro ⟨m, s, hm, hs, hr⟩
    exact ⟨m, hm, s, hs, hr⟩

/-- Whether a directory of this name is one of the run, as its number says. -/
def IsRunDir (d : ResultsDir) (t : Tree) (k : RunKey) (name : String) : Prop :=
  t.get (d.endpointLocation k.endpoint ++ [name]) = .ok .directory ∧
    Layout.number? name "run" = some k.run

/-- Whether `runs` are the run directories of an endpoint, each once and in the order of the runs, with
the records in the directories that the store gives to the runs. -/
structure Listing (cwd : Location) (p : Path) (t : Tree) (endpoint : Nat) (runs : List StoredRun) :
    Prop where
  ascending : runs.Pairwise fun x y => x.key.run ≤ y.key.run
  dirs : runs.Pairwise fun x y => x.dir.locate cwd ≠ y.dir.locate cwd
  mem_iff : ∀ k l, (∃ x ∈ runs, x.key = k ∧ x.dir.locate cwd = l) ↔
    k.endpoint = endpoint ∧ ∃ name, l = (ResultsDir.ofPath cwd p).endpointLocation endpoint ++ [name] ∧
      IsRunDir (.ofPath cwd p) t k name
  record : ∀ x ∈ runs, x.record = recordIn t ((ResultsDir.ofPath cwd p).runLocation x.key)

/-- A numbered directory as it is listed. -/
def numberedRun (d : ResultsDir) (t : Tree) (endpoint : Nat) (x : Nat × String) : StoredRun :=
  ⟨⟨endpoint, x.1⟩, (d.endpointDir endpoint).join x.2, recordIn t (d.runLocation ⟨endpoint, x.1⟩)⟩

theorem listRuns_eq (d : ResultsDir) (t : Tree) (endpoint : Nat) : listRuns d t endpoint =
    (numbered t (d.endpointLocation endpoint) "run").map (·.map (numberedRun d t endpoint)) := by
  have hrun : numberedRun d t endpoint = fun x => ⟨⟨endpoint, x.1⟩,
      (d.endpointDir endpoint).join x.2, (load d t ⟨endpoint, x.1⟩).toOption.join⟩ := by
    funext x
    rw [numberedRun, recordIn_runLocation]
  rw [listRuns, hrun]

theorem endpoint_of_listRuns {endpoint : Nat} {runs : List StoredRun}
    (h : listRuns d t endpoint = .ok runs) : ∀ x ∈ runs, x.key.endpoint = endpoint := by
  rw [listRuns_eq] at h
  cases hn : numbered t (d.endpointLocation endpoint) "run" with
  | error f =>
    rw [hn] at h
    cases h
  | ok ns =>
    rw [hn] at h
    cases h
    intro x hx
    obtain ⟨y, -, rfl⟩ := List.mem_map.mp hx
    rfl

theorem locate_numberedRun {cwd : Location} {p : Path} {endpoint : Nat} {x : Nat × String}
    (h : Layout.number? x.2 "run" = some x.1) :
    (numberedRun (.ofPath cwd p) t endpoint x).dir.locate cwd =
      (ResultsDir.ofPath cwd p).endpointLocation endpoint ++ [x.2] :=
  (Path.locate_join (Layout.isName_of_number? h) cwd _).trans
    (congrArg (· ++ [x.2]) (Path.locate_join (Layout.isName_endpointName endpoint) cwd p))

theorem listing_of_numbering {cwd : Location} {p : Path} {endpoint : Nat} {ns : List (Nat × String)}
    (h : Numbering t ((ResultsDir.ofPath cwd p).endpointLocation endpoint) "run" ns) :
    Listing cwd p t endpoint (ns.map (numberedRun (.ofPath cwd p) t endpoint)) where
  ascending := List.pairwise_map.mpr h.ascending
  dirs := by
    refine List.pairwise_map.mpr (h.names.imp_of_mem fun {x y} hx hy hne he => ?_)
    rw [locate_numberedRun ((h.mem_iff _ _).mp hx).2,
      locate_numberedRun ((h.mem_iff _ _).mp hy).2] at he
    exact hne (List.singleton_inj.mp (List.append_cancel_left he))
  mem_iff k l := by
    simp only [List.mem_map]
    constructor
    · rintro ⟨_, ⟨x, hx, rfl⟩, rfl, rfl⟩
      have hd := (h.mem_iff _ _).mp hx
      exact ⟨rfl, x.2, locate_numberedRun hd.2, hd⟩
    · rintro ⟨rfl, name, rfl, hd⟩
      exact ⟨_, ⟨(k.run, name), (h.mem_iff _ _).mpr hd, rfl⟩, rfl, locate_numberedRun hd.2⟩
  record := by
    intro x hx
    obtain ⟨y, -, rfl⟩ := List.mem_map.mp hx
    simp only [numberedRun]

/-- The runs of an endpoint are listed unless its directory cannot be read. -/
theorem listRuns_cases (ht : t.Distinct) (cwd : Location) (p : Path) (endpoint : Nat) :
    (∃ f, t.list ((ResultsDir.ofPath cwd p).endpointLocation endpoint) = .error f ∧ f ≠ .notFound ∧
        listRuns (.ofPath cwd p) t endpoint = .error (.file f)) ∨
      ∃ runs, listRuns (.ofPath cwd p) t endpoint = .ok runs ∧ Listing cwd p t endpoint runs := by
  rw [listRuns_eq]
  rcases numbered_cases ht ((ResultsDir.ofPath cwd p).endpointLocation endpoint) "run" with
    ⟨f, hf, hne, hn⟩ | ⟨ns, hn, h⟩
  · exact .inl ⟨f, hf, hne, by rw [hn]; rfl⟩
  · exact .inr ⟨_, by rw [hn]; rfl, listing_of_numbering h⟩

/-! ### Faithful listings -/

/-- Whether each run is listed once, in ascending order, and with the record in the directory that it
is listed with. -/
structure Faithful (cwd : Location) (t : Tree) (runs : List StoredRun) : Prop where
  ascending : runs.Pairwise fun x y => x.key.run < y.key.run
  own : ∀ x ∈ runs, x.record = recordIn t (x.dir.locate cwd)

/-- Whether a run of the endpoint has at most one directory, with the record that is loaded for it. -/
structure Unambiguous (d : ResultsDir) (t : Tree) (endpoint : Nat) : Prop where
  once : ∀ k a b, k.endpoint = endpoint → IsRunDir d t k a → IsRunDir d t k b → a = b
  own : ∀ k a, k.endpoint = endpoint → IsRunDir d t k a →
    recordIn t (d.endpointLocation endpoint ++ [a]) = recordIn t (d.runLocation k)

theorem Listing.faithful_iff {cwd : Location} {p : Path} {endpoint : Nat} {runs : List StoredRun}
    (h : Listing cwd p t endpoint runs) :
    Faithful cwd t runs ↔ Unambiguous (.ofPath cwd p) t endpoint := by
  constructor
  · intro hf
    refine ⟨fun k a b hk ha hb => ?_, fun k a hk ha => ?_⟩
    · obtain ⟨x, hx, hxk, hxd⟩ := (h.mem_iff k _).mpr ⟨hk, a, rfl, ha⟩
      obtain ⟨y, hy, hyk, hyd⟩ := (h.mem_iff k _).mpr ⟨hk, b, rfl, hb⟩
      have hn : (runs.map fun x => x.key.run).Nodup :=
        List.pairwise_map.mpr (hf.ascending.imp fun h => h.ne)
      obtain rfl := List.inj_on_of_nodup_map hn hx hy (by rw [hxk, hyk])
      rw [hxd] at hyd
      exact List.singleton_inj.mp (List.append_cancel_left hyd)
    · obtain ⟨x, hx, hxk, hxd⟩ := (h.mem_iff k _).mpr ⟨hk, a, rfl, ha⟩
      rw [← hxd, ← hf.own x hx, h.record x hx, hxk]
  · intro hu
    constructor
    · refine (h.ascending.and h.dirs).imp_of_mem fun {x y} hx hy hxy => ?_
      obtain ⟨hle, hne⟩ := hxy
      refine lt_of_le_of_ne hle fun he => hne ?_
      obtain ⟨hxe, a, hxa, ha⟩ := (h.mem_iff x.key _).mp ⟨x, hx, rfl, rfl⟩
      obtain ⟨hye, b, hyb, hb⟩ := (h.mem_iff y.key _).mp ⟨y, hy, rfl, rfl⟩
      have hk : x.key = y.key := RunKey.ext (hxe.trans hye.symm) he
      rw [hxa, hyb, hu.once x.key a b hxe ha (hk ▸ hb)]
    · intro x hx
      obtain ⟨hxe, a, hxa, ha⟩ := (h.mem_iff x.key _).mp ⟨x, hx, rfl, rfl⟩
      rw [h.record x hx, hxa, hu.own x.key a hxe ha]

/-! ### Well-named directories -/

/-- Whether every run directory has the name that the store gives it. -/
def WellNamed (d : ResultsDir) (t : Tree) : Prop :=
  ∀ k name, IsRunDir d t k name → name = Layout.runName k.run

theorem wellNamed_empty (d : ResultsDir) : WellNamed d .empty := by
  rintro k name ⟨hg, -⟩
  rw [Tree.get_concat_eq_ok_iff] at hg
  simp [Tree.empty, Tree.find?] at hg

theorem runLocation_eq_concat (d : ResultsDir) (k : RunKey) :
    d.runLocation k = d.endpointLocation k.endpoint ++ [Layout.runName k.run] := by
  simp [ResultsDir.endpointLocation, ResultsDir.runLocation, Layout.endpointLocation,
    Layout.runLocation]

/-- Where run directories have their own names, every listing is faithful. -/
theorem WellNamed.unambiguous (h : WellNamed d t) (endpoint : Nat) : Unambiguous d t endpoint where
  once k a b _ ha hb := (h k a ha).trans (h k b hb).symm
  own k a hk ha := by rw [h k a ha, ← hk, runLocation_eq_concat]

theorem isRunDir_iff (ht : t.Sound) {name : String} : IsRunDir d t k name ↔
    t.find? (d.endpointLocation k.endpoint ++ [name]) = some .directory ∧
      Layout.number? name "run" = some k.run := by
  rw [IsRunDir, Tree.get_eq_ok_iff]
  exact and_congr_left fun _ => ⟨fun h => h.2, fun h => ⟨ht.obstacle? (by simp [h]), h⟩⟩

/-- An access puts nothing in the directory of an endpoint but a run directory under its own name. -/
theorem find?_perform_endpoint {e : Nat} {name : String}
    (hm : ∀ k, d.endpointLocation e ++ [name] ≠ d.runLocation k) (a : Access) {x : Entry}
    (h : (a.perform d t).find? (d.endpointLocation e ++ [name]) = some x) :
    t.find? (d.endpointLocation e ++ [name]) = some x := by
  have hlen : ∀ k, (d.endpointLocation e ++ [name]).length = (d.runLocation k).length := fun k => by
    simp [runLocation_eq_concat, ResultsDir.endpointLocation, Layout.endpointLocation]
  cases a with
  | save k r =>
    rw [Access.perform] at h
    rcases save_cases d t k r with hu | ⟨-, v, hv, hout, -⟩
    · rwa [hu] at h
    · rw [hout _ fun hp => hm k (hp.eq_of_length (hlen k).symm).symm,
        (Tree.makeDirs_spec hv).2.1 _ fun hp => hm k (hp.eq_of_length (hlen k))] at h
      exact h
  | discard k =>
    rw [Access.perform] at h
    rcases discard_cases d t k with hu | hu
    · rwa [hu] at h
    · rw [hu, Tree.find?_cut_elsewhere t fun hp =>
        hm k (hp.eq_of_length (hlen k).symm).symm] at h
      exact h

/-- The store makes no run directory under another name. -/
theorem wellNamed_perform (ht : t.Sound) (h : WellNamed d t) (a : Access) :
    WellNamed d (a.perform d t) := by
  intro k name hk
  obtain ⟨hf, hn⟩ := (isRunDir_iff (sound_perform ht a)).mp hk
  by_cases hm : ∃ k', d.endpointLocation k.endpoint ++ [name] = d.runLocation k'
  · obtain ⟨k', hk'⟩ := hm
    rw [runLocation_eq_concat] at hk'
    obtain rfl := List.singleton_inj.mp (List.append_inj' hk' rfl).2
    rw [Layout.number?_runName hn]
  · have hf' := find?_perform_endpoint (fun k' he => hm ⟨k', he⟩) a hf
    exact h k name ((isRunDir_iff ht).mpr ⟨hf', hn⟩)

theorem distinct_perform (ht : t.Distinct) (a : Access) : (a.perform d t).Distinct := by
  cases a with
  | save k r =>
    rw [Access.perform, Claims.save]
    split
    · exact Step.distinct_run ht _
    · exact ht
  | discard k => exact Step.distinct_run ht _

/-- What the store itself did to a well-named tree leaves it well-named. -/
theorem wellNamed_history : ∀ (as : List Access) {t : Tree}, t.Sound → t.Distinct →
    WellNamed d t → (as.foldl (Access.perform d) t).Distinct ∧
      WellNamed d (as.foldl (Access.perform d) t)
  | [], _, _, hd, h => ⟨hd, h⟩
  | a :: as, _, ht, hd, h =>
    wellNamed_history as (sound_perform ht a) (distinct_perform hd a) (wellNamed_perform ht h a)

end Store

end SuiteBench
