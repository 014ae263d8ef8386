import SuiteBench.Proofs.Store.Sound
import SuiteBench.Proofs.Suite.Counts
import SuiteBench.Report.Collected

/-!
# Proofs.Suite.Merging — suites taken together in any order

What analyses come to when they are merged is known by its counters, by the count of each kind of
assertion and by its classes, and none of these depends on the order of the analyses or on how they are
grouped.  In the same way the analysis of a directory is known by its files of generated tests.
-/

namespace SuiteBench

namespace SuiteAnalysis

variable {a b u v : SuiteAnalysis} {as bs : List SuiteAnalysis}

/-! ### Names in their order -/

section Names

variable {xs ys : List String}

theorem perm_sortNames (xs : List String) : (sortNames xs).Perm xs := List.mergeSort_perm ..

theorem pairwise_sortNames (xs : List String) : (sortNames xs).Pairwise (· ≤ ·) :=
  List.pairwise_mergeSort' (· ≤ ·) xs

theorem sortNames_of_perm (h : xs.Perm ys) : sortNames xs = sortNames ys :=
  ((perm_sortNames xs).trans (h.trans (perm_sortNames ys).symm)).eq_of_pairwise'
    (pairwise_sortNames xs) (pairwise_sortNames ys)

theorem mem_dropRepeats {x : String} : x ∈ dropRepeats xs ↔ x ∈ xs := by
  fun_induction dropRepeats xs with
  | case1 => rfl
  | case2 => rfl
  | case3 y z rest h ih => simp [ih, beq_iff_eq.mp h]
  | case4 y z rest h ih => rw [List.mem_cons, ih, List.mem_cons (b := y)]

theorem pairwise_dropRepeats (h : xs.Pairwise (· ≤ ·)) : (dropRepeats xs).Pairwise (· < ·) := by
  fun_induction dropRepeats xs with
  | case1 => exact .nil
  | case2 x => exact List.pairwise_singleton _ x
  | case3 x y rest _ ih => exact ih (List.pairwise_cons.mp h).2
  | case4 x y rest hne ih =>
    obtain ⟨hx, hrest⟩ := List.pairwise_cons.mp h
    refine List.pairwise_cons.mpr ⟨fun z hz => ?_, ih hrest⟩
    have hxy : x < y := lt_of_le_of_ne (hx y List.mem_cons_self) fun heq => hne (beq_iff_eq.mpr heq)
    rcases List.mem_cons.mp (mem_dropRepeats.mp hz) with rfl | hz
    · exact hxy
    · exact hxy.trans_le ((List.pairwise_cons.mp hrest).1 z hz)

end Names

/-! ### Sums of analyses -/

/-- The counters of an analysis, those of the kinds of assertions apart. -/
def counters : List (SuiteAnalysis → Nat) :=
  [files, methods, assertions, boundaryInputs, statusAssertions, expectedExceptions, nullReferences]

/-- Whether an analysis counts what some analyses count together and has their classes. -/
structure Sums (u : SuiteAnalysis) (as : List SuiteAnalysis) : Prop where
  counters : ∀ f ∈ SuiteAnalysis.counters, f u = (as.map f).sum
  ascending : u.assertionKinds.Ascending
  kinds : ∀ kind, kind ∈ u.assertionKinds.map (·.1) ↔ ∃ a ∈ as, kind ∈ a.assertionKinds.map (·.1)
  count : ∀ kind, u.assertionKinds.count kind = (as.map (·.assertionKinds.count kind)).sum
  classes : ∀ c, c ∈ u.classes ↔ ∃ a ∈ as, c ∈ a.classes

/-- Whether the classes stand in their order besides, each once. -/
structure Unites (u : SuiteAnalysis) (as : List SuiteAnalysis) : Prop extends Sums u as where
  classesAscending : u.classes.Pairwise (· < ·)

theorem counters_merge {f : SuiteAnalysis → Nat} (hf : f ∈ counters) (a b : SuiteAnalysis) :
    f (a.merge b) = f a + f b := by
  simp only [counters, List.mem_cons, List.not_mem_nil, or_false] at hf
  rcases hf with rfl | rfl | rfl | rfl | rfl | rfl | rfl <;> rfl

theorem counters_empty {f : SuiteAnalysis → Nat} (hf : f ∈ counters) : f empty = 0 := by
  simp only [counters, List.mem_cons, List.not_mem_nil, or_false] at hf
  rcases hf with rfl | rfl | rfl | rfl | rfl | rfl | rfl <;> rfl

/-- Analyses with the same counters, counts and classes are the same. -/
theorem eq_of_counters (hf : ∀ f ∈ counters, f u = f v)
    (hkinds : u.assertionKinds = v.assertionKinds) (hclasses : u.classes = v.classes) : u = v := by
  obtain ⟨h₁, h₂, h₃, h₄, h₅, h₆, h₇⟩ : u.files = v.files ∧ u.methods = v.methods ∧
      u.assertions = v.assertions ∧ u.boundaryInputs = v.boundaryInputs ∧
      u.statusAssertions = v.statusAssertions ∧ u.expectedExceptions = v.expectedExceptions ∧
      u.nullReferences = v.nullReferences := by simpa [counters] using hf
  cases u
  cases v
  simp_all

theorem sums_singleton (h : a.assertionKinds.Ascending) : Sums a [a] where
  counters f _ := (Nat.add_zero (f a)).symm
  ascending := h
  kinds kind := by simp
  count kind := (Nat.add_zero (a.assertionKinds.count kind)).symm
  classes c := by simp

theorem unites_empty : Unites empty [] where
  counters _ hf := counters_empty hf
  ascending := .nil
  kinds kind := by simp [empty]
  count _ := rfl
  classes c := by simp [empty]
  classesAscending := .nil

/-- What is merged sums up what either part sums up, and its classes are sorted anew. -/
theorem Sums.merge (ha : Sums a as) (hb : Sums b bs) : Unites (a.merge b) (as ++ bs) where
  counters f hf := by
    rw [counters_merge hf, ha.counters f hf, hb.counters f hf, List.map_append, List.sum_append]
  ascending := ha.ascending.addAll b.assertionKinds
  kinds kind := by
    change kind ∈ (NamedCounts.addAll a.assertionKinds b.assertionKinds).map (·.1) ↔ _
    rw [NamedCounts.mem_names_addAll, ha.kinds, hb.kinds]
    simp only [List.mem_append, or_and_right, exists_or]
  count kind := by
    change (NamedCounts.addAll a.assertionKinds b.assertionKinds).count kind = _
    rw [ha.ascending.count_addAll, ← hb.ascending.count_eq_sum, ha.count, hb.count, List.map_append,
      List.sum_append]
  classes c := by
    change c ∈ dropRepeats (sortNames (a.classes ++ b.classes)) ↔ _
    rw [mem_dropRepeats, (perm_sortNames _).mem_iff, List.mem_append, ha.classes, hb.classes]
    simp only [List.mem_append, or_and_right, exists_or]
  classesAscending := pairwise_dropRepeats (pairwise_sortNames _)

/-- Apart from its classes, a sum of analyses is known, whatever their order. -/
theorem Sums.eq_of_perm (hu : Sums u as) (hv : Sums v bs) (h : as.Perm bs)
    (hclasses : u.classes = v.classes) : u = v := by
  refine eq_of_counters (fun f hf => ?_) ?_ hclasses
  · rw [hu.counters f hf, hv.counters f hf, (h.map f).sum_eq]
  · refine hu.ascending.eq_of_counts hv.ascending (fun kind => ?_) fun kind => ?_
    · rw [hu.kinds, hv.kinds]
      simp only [h.mem_iff]
    · rw [hu.count, hv.count, (h.map _).sum_eq]

/-- Strictly sorted classes are known too. -/
theorem Unites.eq_of_perm (hu : Unites u as) (hv : Unites v bs) (h : as.Perm bs) : u = v := by
  refine hu.toSums.eq_of_perm hv.toSums h ?_
  refine List.Pairwise.eq_of_mem_iff hu.classesAscending hv.classesAscending fun c => ?_
  rw [hu.classes, hv.classes]
  simp only [h.mem_iff]

/-! ### Groupings -/

/-- A way to take analyses together: one by one, beginning with none, or as two groups of which each is
taken together first. -/
inductive Grouping where
  | inTurn (as : List SuiteAnalysis)
  | join (g h : Grouping)

namespace Grouping

/-- What the analyses come to. -/
def total : Grouping → SuiteAnalysis
  | inTurn as => as.foldl merge empty
  | join g h => g.total.merge h.total

/-- The analyses that are taken together. -/
def members : Grouping → List SuiteAnalysis
  | inTurn as => as
  | join g h => g.members ++ h.members

end Grouping

/-- Analyses that are merged one by one are summed up. -/
theorem unites_foldl (hu : Unites u bs) (has : ∀ a ∈ as, a.assertionKinds.Ascending) :
    Unites (as.foldl merge u) (bs ++ as) := by
  induction as generalizing u bs with
  | nil => rwa [List.append_nil]
  | cons a as ih =>
    obtain ⟨ha, has⟩ := List.forall_mem_cons.mp has
    rw [List.foldl_cons, List.append_cons]
    exact ih (hu.toSums.merge (sums_singleton ha)) has

theorem Grouping.unites (g : Grouping) (hg : ∀ a ∈ g.members, a.assertionKinds.Ascending) :
    Unites g.total g.members := by
  induction g with
  | inTurn as => exact unites_foldl unites_empty hg
  | join g h ihg ihh =>
    obtain ⟨hg, hh⟩ := List.forall_mem_append.mp hg
    exact (ihg hg).toSums.merge (ihh hh).toSums

/-! ### The files of a directory -/

section Files

variable {t t' : Tree} {dir dir' : Location} {c source : String} {ss ss' : List (String × String)}

/-- The analysis of one source. -/
def ofSource (c source : String) : SuiteAnalysis := empty.addSource c source

theorem counters_addSource {f : SuiteAnalysis → Nat} (hf : f ∈ counters) (a : SuiteAnalysis)
    (c source : String) : f (a.addSource c source) = f a + f (ofSource c source) := by
  simp only [counters, List.mem_cons, List.not_mem_nil, or_false] at hf
  rcases hf with rfl | rfl | rfl | rfl | rfl | rfl | rfl <;> simp [ofSource, addSource, empty]

/-- A source adds what its own analysis counts. -/
theorem Sums.addSource (ha : Sums a as) (c source : String) :
    Sums (a.addSource c source) (as ++ [ofSource c source]) where
  counters f hf := by
    rw [counters_addSource hf, ha.counters f hf, List.map_append, List.sum_append]
    rfl
  ascending := ha.ascending.addAll (callsIn source.toList)
  kinds kind := by
    change kind ∈ (NamedCounts.addAll a.assertionKinds (callsIn source.toList)).map (·.1) ↔ _
    have hown : kind ∈ (ofSource c source).assertionKinds.map (·.1) ↔
        kind ∈ (callsIn source.toList).map (·.1) := by
      change kind ∈ (NamedCounts.addAll [] (callsIn source.toList)).map (·.1) ↔ _
      rw [NamedCounts.mem_names_addAll, List.map_nil, or_iff_right List.not_mem_nil]
    rw [NamedCounts.mem_names_addAll, ha.kinds, ← hown]
    simp only [List.mem_append, List.mem_singleton, or_and_right, exists_or, exists_eq_left]
  count kind := by
    have hnil : NamedCounts.Ascending [] := .nil
    change (NamedCounts.addAll a.assertionKinds (callsIn source.toList)).count kind = _
    have hown : (ofSource c source).assertionKinds.count kind =
        ((callsIn source.toList).map fun x => if kind = x.1 then x.2 else 0).sum :=
      (hnil.count_addAll (callsIn source.toList) kind).trans (Nat.zero_add _)
    rw [ha.ascending.count_addAll, ← hown, ha.count, List.map_append, List.sum_append]
    rfl
  classes c' := by
    change c' ∈ a.classes ++ [c] ↔ _
    have hown : c' ∈ (ofSource c source).classes ↔ c' ∈ [c] := Iff.rfl
    rw [List.mem_append, ha.classes, ← hown]
    simp only [List.mem_append, List.mem_singleton, or_and_right, exists_or, exists_eq_left]

/-- The analysis of some sources, as they come. -/
def ofSources (ss : List (String × String)) : SuiteAnalysis :=
  ss.foldl (fun a (c, source) => a.addSource c source) empty

theorem ofSources_concat (ss : List (String × String)) (c source : String) :
    ofSources (ss ++ [(c, source)]) = (ofSources ss).addSource c source := by
  rw [ofSources, List.foldl_concat]
  rfl

theorem sums_ofSources (ss : List (String × String)) :
    Sums (ofSources ss) (ss.map fun s => ofSource s.1 s.2) := by
  induction ss using List.reverseRecOn with
  | nil => exact unites_empty.toSums
  | append_singleton ss s ih =>
    rw [ofSources_concat, List.map_append]
    exact ih.addSource s.1 s.2

theorem classes_ofSources (ss : List (String × String)) : (ofSources ss).classes = ss.map (·.1) := by
  induction ss using List.reverseRecOn with
  | nil => rfl
  | append_singleton ss s ih =>
    rw [ofSources_concat, List.map_append, ← ih]
    rfl

/-- The analysis with its classes sorted. -/
def sorted (a : SuiteAnalysis) : SuiteAnalysis := { a with classes := sortNames a.classes }

theorem Sums.sorted (h : Sums a as) : Sums a.sorted as where
  counters f hf := by
    rw [← h.counters f hf]
    simp only [SuiteAnalysis.counters, List.mem_cons, List.not_mem_nil, or_false] at hf
    rcases hf with rfl | rfl | rfl | rfl | rfl | rfl | rfl <;> rfl
  ascending := h.ascending
  kinds := h.kinds
  count := h.count
  classes c := (perm_sortNames a.classes).mem_iff.trans (h.classes c)

/-- With its classes sorted, the analysis of some sources does not depend on their order. -/
theorem sorted_ofSources_of_perm (h : ss.Perm ss') : (ofSources ss).sorted = (ofSources ss').sorted := by
  refine (sums_ofSources ss).sorted.eq_of_perm (sums_ofSources ss').sorted (h.map _) ?_
  refine sortNames_of_perm ?_
  rw [classes_ofSources, classes_ofSources]
  exact h.map _

/-- The files of generated tests below a location: those with a name that ends so. -/
def testFiles (t : Tree) (dir : Location) : List (Location × ByteArray) :=
  (t.filesBelow dir).filter fun f => f.1.getLast?.any fun name =>
    fileSuffix.toList.isSuffixOf name.toList

/-- The class and the text of a file of generated tests. -/
def sourceOf? (f : Location × ByteArray) : Option (String × String) :=
  (f.1.getLast?.bind className?).map fun c => (c, Text.Utf8.lossy f.2)

theorem isSome_className? (name : String) :
    (className? name).isSome = fileSuffix.toList.isSuffixOf name.toList := by
  have hstarts : Text.startsWith fileSuffix.toList.reverse name.toList.reverse =
      fileSuffix.toList.isSuffixOf name.toList := by
    rw [Bool.eq_iff_iff, Text.startsWith_iff, List.isSuffixOf_iff_suffix, ← List.reverse_prefix]
    exact exists_congr fun _ => eq_comm
  rw [className?, ← hstarts]
  split
  · next h => rw [h, Option.isSome_some]
  · next h => rw [Bool.eq_false_iff.mpr h, Option.isSome_none]

/-- Where a file stands below a location of a sound tree, a directory stands at the location. -/
theorem isDirectory_of_mem_filesBelow (ht : t.Sound) {f : Location × ByteArray}
    (hf : f ∈ t.filesBelow dir) : t.isDirectory dir = true := by
  obtain ⟨⟨l, e⟩, hmem, hbelow⟩ := List.mem_filterMap.mp hf
  dsimp only at hbelow
  split at hbelow
  · split at hbelow
    · next hl =>
      simp only [Bool.and_eq_true, List.isPrefixOf_iff_prefix, bne_iff_ne] at hl
      obtain ⟨hfront, hne⟩ := hl
      have hnil : l ≠ [] := by
        rintro rfl
        exact hne (List.prefix_nil.mp hfront).symm
      have hfound : t.find? l ≠ none := by
        rw [Tree.find?_of_ne_nil t hnil, Ne, List.lookup_eq_none_iff]
        exact fun hall => by simpa using hall _ hmem
      rw [Tree.isDirectory, ht l hfound dir hfront hne.symm]
      rfl
    · cases hbelow
  · cases hbelow

theorem sources_eq_filterMap (ht : t.Sound) (dir : Location) :
    sources t dir = (testFiles t dir).filterMap sourceOf? := by
  have hnames : (testFiles t dir).filterMap sourceOf? = (t.filesBelow dir).filterMap sourceOf? := by
    rw [testFiles, List.filterMap_filter]
    refine List.filterMap_congr fun f _ => ?_
    cases hlast : f.1.getLast? with
    | none => simp [sourceOf?, hlast]
    | some name =>
      rw [Option.any_some, ← isSome_className?]
      cases hname : className? name <;> simp [sourceOf?, hlast, hname]
  rw [hnames, sources]
  split
  · rfl
  · next hdir =>
    have hnone : t.filesBelow dir = [] :=
      List.eq_nil_iff_forall_not_mem.mpr fun f hf => hdir (isDirectory_of_mem_filesBelow ht hf)
    rw [hnone, List.filterMap_nil]

/-- The analysis of a directory depends on its files of generated tests alone. -/
theorem ofDirectory_of_perm (ht : t.Sound) (ht' : t'.Sound)
    (h : (testFiles t dir).Perm (testFiles t' dir')) : ofDirectory t dir = ofDirectory t' dir' := by
  change (ofSources (sources t dir)).sorted = (ofSources (sources t' dir')).sorted
  rw [sources_eq_filterMap ht, sources_eq_filterMap ht']
  exact sorted_ofSources_of_perm (h.filterMap sourceOf?)

theorem ascending_ofDirectory (t : Tree) (dir : Location) :
    (ofDirectory t dir).assertionKinds.Ascending := (sums_ofSources (sources t dir)).ascending

end Files

/-! ### Endpoints -/

/-- The tests of an endpoint do not depend on the order of its records. -/
theorem endpointTests_of_perm (d : ResultsDir) (t : Tree) {e e' : EndpointResults}
    (hid : e.endpoint = e'.endpoint) (h : e.records.Perm e'.records) :
    Report.endpointTests d t e = Report.endpointTests d t e' := by
  have hmaps : ∀ as : List SuiteAnalysis, (∀ a ∈ as, ∃ dir, a = ofDirectory t dir) →
      Unites (Grouping.inTurn as).total as := fun as has =>
    Grouping.unites (.inTurn as) fun a ha => by
      obtain ⟨dir, rfl⟩ := has a ha
      exact ascending_ofDirectory t dir
  have hsuite := (hmaps _ fun a ha => ?_).eq_of_perm (hmaps _ fun a ha => ?_) (h.map fun r : RunRecord =>
    ofDirectory t (Report.testsLocation d ⟨e'.endpoint, r.key.run⟩))
  · rw [Report.endpointTests, Report.endpointTests, hid, h.length_eq]
    exact congrArg _ hsuite
  all_goals
    obtain ⟨r, -, rfl⟩ := List.mem_map.mp ha
    exact ⟨_, rfl⟩

/-! ### Any order -/

/-- However analyses are ordered and grouped, they come to the same: the sum of each counter and of each
kind of assertion, and the classes strictly sorted.  So neither the order of an endpoint's records nor that
of the files of generated tests matters, of which alone an analysis is made. -/
theorem merged_in_any_order :
    (∀ g : Grouping, (∀ a ∈ g.members, a.assertionKinds.Ascending) → Unites g.total g.members ∧
      ∀ h : Grouping, h.members.Perm g.members → h.total = g.total) ∧
    (∀ g h k : Grouping, (∀ a ∈ g.members ++ h.members ++ k.members, a.assertionKinds.Ascending) →
      g.total.merge h.total = h.total.merge g.total ∧
        (g.total.merge h.total).merge k.total = g.total.merge (h.total.merge k.total)) ∧
    (∀ (d : ResultsDir) (t : Tree) (e : EndpointResults) (records : List RunRecord),
      records.Perm e.records →
        Report.endpointTests d t { e with records } = Report.endpointTests d t e) ∧
    ∀ (t t' : Tree) (dir : Location), t.Sound → t'.Sound →
      (testFiles t dir).Perm (testFiles t' dir) → ofDirectory t dir = ofDirectory t' dir := by
  have hgroups : ∀ g h : Grouping, (∀ a ∈ g.members, a.assertionKinds.Ascending) →
      h.members.Perm g.members → h.total = g.total := fun g h hg hperm =>
    (h.unites fun a ha => hg a (hperm.mem_iff.mp ha)).eq_of_perm (g.unites hg) hperm
  refine ⟨fun g hg => ⟨g.unites hg, fun h => hgroups g h hg⟩, fun g h k hall => ⟨?_, ?_⟩,
    fun d t e records hperm => endpointTests_of_perm d t (e := { e with records }) rfl hperm,
    fun t t' dir ht ht' hperm => ofDirectory_of_perm ht ht' hperm⟩
  · obtain ⟨hgh, -⟩ := List.forall_mem_append.mp hall
    obtain ⟨hg, hh⟩ := List.forall_mem_append.mp hgh
    exact hgroups (h.join g) (g.join h) (List.forall_mem_append.mpr ⟨hh, hg⟩) List.perm_append_comm
  · refine hgroups (g.join (h.join k)) ((g.join h).join k) ?_ ?_
    · simpa only [Grouping.members, List.append_assoc] using hall
    · rw [Grouping.members, Grouping.members, List.append_assoc]
      exact List.Perm.rfl

/-- An analysis with one class. -/
def oneClass : SuiteAnalysis := ⟨1, 1, 1, [("assertNull", 1)], 0, 0, 0, 1, ["B_ESTest"]⟩

/-- One that lists a kind without a call, and its classes twice and in no order. -/
def twoClasses : SuiteAnalysis :=
  ⟨2, 3, 2, [("assertNull", 0), ("fail", 2)], 1, 0, 0, 0, ["C_ESTest", "A_ESTest", "C_ESTest"]⟩

/-- A directory with two files of generated tests and one of another kind. -/
def walkedTree : Tree := ⟨[(["t"], .directory),
  (["t", "A_ESTest.java"], .file "@Test fail(1)".toUTF8 false),
  (["t", "B_ESTest.java"], .file "@Test".toUTF8 false), (["t", "B.java"], .file "".toUTF8 false)]⟩

/-- The directory as another walk finds it, without that one. -/
def otherWalk : Tree := ⟨[(["t"], .directory),
  (["t", "B_ESTest.java"], .file "@Test".toUTF8 false),
  (["t", "A_ESTest.java"], .file "@Test fail(1)".toUTF8 false)]⟩

theorem merged_in_any_order_sample :
    (∀ a ∈ [oneClass, twoClasses], a.assertionKinds.Ascending) ∧
      ((Grouping.inTurn [twoClasses]).join (.inTurn [oneClass])).total =
        (Grouping.inTurn [oneClass, twoClasses]).total ∧
      (Grouping.inTurn [oneClass]).total.merge (Grouping.inTurn [twoClasses]).total =
        (Grouping.inTurn [twoClasses]).total.merge (Grouping.inTurn [oneClass]).total ∧
      (Grouping.inTurn [twoClasses, oneClass]).total.assertionKinds =
        [("assertNull", 1), ("fail", 2)] ∧
      ofDirectory walkedTree ["t"] = ofDirectory otherWalk ["t"] := by
  obtain ⟨hgroups, hmerge, -, hfiles⟩ := merged_in_any_order
  have hkinds : ∀ a ∈ [oneClass, twoClasses], a.assertionKinds.Ascending := by
    simp only [List.forall_mem_cons, NamedCounts.Ascending]
    decide
  have hall : ∀ a ∈ [oneClass, twoClasses] ++ [], a.assertionKinds.Ascending := hkinds
  have hwalked : walkedTree.Sound := Tree.sound_of_entries (by decide)
  have hother : otherWalk.Sound := Tree.sound_of_entries (by decide)
  have hperm : (testFiles walkedTree ["t"]).Perm (testFiles otherWalk ["t"]) := by decide
  refine ⟨hkinds, (hgroups (.inTurn _) hkinds).2 _ (List.Perm.swap oneClass twoClasses []),
    (hmerge (.inTurn [oneClass]) (.inTurn [twoClasses]) (.inTurn []) hall).1, by decide,
    hfiles walkedTree otherWalk ["t"] hwalked hother hperm⟩

end SuiteAnalysis

end SuiteBench
