import SuiteBench.Proofs.Pattern.Counting
import SuiteBench.Proofs.Suite.Counts

/-!
# Proofs.Suite.Calls — the assertions that a test suite calls

A call of an assertion is a whole word of the text, the name of an assertion, with blanks and an opening
parenthesis behind it.  The search for one name finds each place where it is called, whatever other
names begin or end with it, so the searches for all names together count every call once.
-/

namespace SuiteBench

open Pattern

namespace SuiteAnalysis

variable {t w : List Char} {c d e : Cursor} {kind : String}

/-- Whether `w` is a maximal run of word characters at a place of a text, in front of `r`. -/
structure Run (t : List Char) (c : Cursor) (w r : List Char) : Prop where
  of : c.Of t
  rest : c.rest = w ++ r
  nonempty : w ≠ []
  word : ∀ x ∈ w, Text.isWord x = true
  before : c.before.any Text.isWord = false
  behind : r.head?.any Text.isWord = false

/-- Whether a text goes on with an opening parenthesis, behind any blanks. -/
def Opens (r : List Char) : Prop :=
  ∃ front back, r = front ++ '(' :: back ∧ ∀ x ∈ front, Text.isBlank x = true

/-- The words of a text, by place, that call an assertion. -/
def callSites (t : List Char) : Set (Cursor × List Char) :=
  {x | String.ofList x.2 ∈ kinds ∧ ∃ r, Run t x.1 x.2 r ∧ Opens r}

/-- Those that call one kind of assertion. -/
def callSitesOf (kind : String) (t : List Char) : Set (Cursor × List Char) :=
  {x ∈ callSites t | String.ofList x.2 = kind}

/-! ### One kind -/

/-- A name of word characters. -/
structure IsName (kind : String) : Prop where
  nonempty : kind.toList ≠ []
  word : ∀ x ∈ kind.toList, Text.isWord x = true

theorem isName_of_mem_kinds (h : kind ∈ kinds) : IsName kind := by
  have hall : ∀ kind ∈ kinds, kind.toList ≠ [] ∧ kind.toList.all Text.isWord = true := by
    decide
  obtain ⟨hne, hword⟩ := hall kind h
  exact ⟨hne, List.all_eq_true.mp hword⟩

theorem not_isWord_paren : Text.isWord '(' = false := by decide

/-- Blanks and an opening parenthesis are no word characters. -/
theorem not_isWord_of_mem {front : List Char} (hfront : ∀ x ∈ front, Text.isBlank x = true) {x : Char}
    (hx : x ∈ front ++ ['(']) : Text.isWord x = false := by
  rcases List.mem_append.mp hx with hx | hx
  · exact Text.isWord_of_isBlank (hfront x hx)
  · rw [List.mem_singleton.mp hx]
    exact not_isWord_paren

theorem holds_edge (hword : c.rest.head?.any Text.isWord = true) :
    (Place.word .edge false).holds c = true ↔ c.before.any Text.isWord = false := by
  simp only [Place.holds, Place.holdsBetween, Bool.false_eq_true, if_false, hword]
  cases c.before.any Text.isWord <;> decide

theorem head_isWord (hname : IsName kind) (hrest : c.rest = kind.toList ++ w) :
    c.rest.head?.any Text.isWord = true := by
  obtain ⟨x, xs, hxs⟩ := List.exists_cons_of_ne_nil hname.nonempty
  rw [hrest, hxs]
  exact hname.word x (hxs ▸ List.mem_cons_self)

/-- A match of a call takes the name, blanks and an opening parenthesis, and begins a word. -/
theorem takes_of_leads_callOf (hname : IsName kind) (h : (callOf kind).Leads c d) :
    c.before.any Text.isWord = false ∧ ∃ front, (∀ x ∈ front, Text.isBlank x = true) ∧
      c.Takes (kind.toList ++ (front ++ ['('])) d := by
  obtain ⟨c', ⟨rfl, hedge⟩, h⟩ := leads_seqs_cons.mp h
  obtain ⟨e, hname', h⟩ := leads_seqs_cons.mp h
  obtain ⟨f, hblanks, hparen⟩ := leads_seqs_cons.mp h
  obtain ⟨w, hw, hce⟩ := hname'.spells
  obtain rfl := eq_of_spells_text hw
  obtain ⟨front, hfront, hef⟩ := hblanks.spells
  obtain ⟨w, hw, hfd⟩ := Leads.spells (p := text "(") hparen
  obtain rfl := eq_of_spells_text hw
  refine ⟨(holds_edge (head_isWord hname hce.rest)).mp hedge, front, ?_, hce.trans (hef.trans hfd)⟩
  cases hfront with
  | many hall => exact hall

theorem exists_leads_callOf {front back : List Char} (hname : IsName kind)
    (hbefore : c.before.any Text.isWord = false) (hfront : ∀ x ∈ front, Text.isBlank x = true)
    (hrest : c.rest = kind.toList ++ (front ++ '(' :: back)) : ∃ d, (callOf kind).Leads c d := by
  obtain ⟨e, he, herest⟩ := exists_leads_text hrest
  obtain ⟨f, hf, hfrest⟩ := exists_leads_many (s := .blank) hfront herest
  obtain ⟨d, hd, -⟩ := exists_leads_text (s := "(") (r := back) hfrest
  have hedge := (holds_edge (head_isWord hname hrest)).mpr hbefore
  exact ⟨d, leads_seqs_cons.mpr ⟨c, ⟨rfl, hedge⟩, leads_seqs_cons.mpr ⟨e, he,
    leads_seqs_cons.mpr ⟨f, hf, hd⟩⟩⟩⟩

/-- No call begins within a call of the same name: no word begins within the name, and what is behind
the name begins no word. -/
theorem apart_callOf (hname : IsName kind) (t : List Char) : (callOf kind).Apart t where
  ahead hc h := by
    obtain ⟨-, front, -, htakes⟩ := takes_of_leads_callOf hname h
    have := htakes.index
    simp only [List.length_append, List.length_singleton] at this
    omega
  apart {c d e f} hc he hcd hef hlt := by
    by_contra hwithin
    obtain ⟨-, front, hfront, htakes⟩ := takes_of_leads_callOf hname hcd
    obtain ⟨hbefore, front', -, htakes'⟩ := takes_of_leads_callOf hname hef
    obtain ⟨v, v', hsplit, hce, hed⟩ := htakes.exists_split hc he hlt.le (by omega)
    have hv : v ≠ [] := by
      rintro rfl
      have := hce.index
      simp at this
      omega
    have hv' : v' ≠ [] := by
      rintro rfl
      have := hed.index
      simp at this
      omega
    rcases List.append_eq_append_iff.mp hsplit with ⟨w, rfl, hw⟩ | ⟨w, hkind, rfl⟩
    · obtain ⟨x, xs, rfl⟩ := List.exists_cons_of_ne_nil hv'
      have hx : Text.isWord x = false :=
        not_isWord_of_mem hfront (hw ▸ List.mem_append_right _ List.mem_cons_self)
      have hhead := head_isWord hname (htakes'.rest.trans (List.append_assoc _ _ _))
      rw [hed.rest] at hhead
      exact Bool.noConfusion (hx.symm.trans hhead)
    · have hlast : Text.isWord (v.getLast hv) = true :=
        hname.word _ (hkind ▸ List.mem_append_left _ (List.getLast_mem hv))
      rw [hce.before hc he, List.getLast?_eq_some_getLast hv] at hbefore
      exact Bool.noConfusion (hbefore.symm.trans hlast)

theorem mem_starts_callOf_iff (hname : IsName kind) :
    c ∈ (callOf kind).starts t ↔ ∃ r, Run t c kind.toList r ∧ Opens r := by
  constructor
  · rintro ⟨hc, d, hcd⟩
    obtain ⟨hbefore, front, hfront, htakes⟩ := takes_of_leads_callOf hname hcd
    have hrest : c.rest = kind.toList ++ (front ++ '(' :: d.rest) := by
      rw [htakes.rest, List.append_assoc, List.append_assoc, List.singleton_append]
    refine ⟨front ++ '(' :: d.rest, ⟨hc, hrest, hname.nonempty, hname.word, hbefore, ?_⟩,
      front, d.rest, rfl, hfront⟩
    cases front with
    | nil => exact not_isWord_paren
    | cons x front => exact Text.isWord_of_isBlank (hfront x List.mem_cons_self)
  · rintro ⟨r, hrun, front, back, rfl, hfront⟩
    exact ⟨hrun.of, exists_leads_callOf hname hrun.before hfront hrun.rest⟩

theorem callSitesOf_eq (h : kind ∈ kinds) :
    callSitesOf kind t = (fun c => (c, kind.toList)) '' (callOf kind).starts t := by
  ext ⟨c, w⟩
  rw [Set.mem_image]
  constructor
  · rintro ⟨⟨-, hsite⟩, rfl⟩
    refine ⟨c, (mem_starts_callOf_iff (isName_of_mem_kinds h)).mpr ?_, ?_⟩
    · rwa [String.toList_ofList]
    · rw [String.toList_ofList]
  · rintro ⟨c', hc', heq⟩
    obtain ⟨rfl, rfl⟩ := Prod.mk.inj heq
    refine ⟨⟨?_, (mem_starts_callOf_iff (isName_of_mem_kinds h)).mp hc'⟩, String.ofList_toList⟩
    rwa [String.ofList_toList]

theorem count_callOf (h : kind ∈ kinds) : (callOf kind).count t = (callSitesOf kind t).ncard := by
  have hinjective : Function.Injective fun c : Cursor => (c, kind.toList) := fun _ _ heq =>
    congrArg Prod.fst heq
  rw [count_eq_ncard_starts (apart_callOf (isName_of_mem_kinds h) t), callSitesOf_eq h,
    Set.ncard_image_of_injective _ hinjective]

/-! ### All kinds -/

theorem nodup_kinds : kinds.Nodup := by decide

theorem finite_callSitesOf (h : kind ∈ kinds) : (callSitesOf kind t).Finite := by
  rw [callSitesOf_eq h]
  exact (finite_starts _ t).image _

/-- The calls of several kinds are those of each. -/
theorem ncard_callSites_of_mem {ks : List String} (hks : ∀ k ∈ ks, k ∈ kinds) (hnodup : ks.Nodup) :
    {x ∈ callSites t | String.ofList x.2 ∈ ks}.Finite ∧
      {x ∈ callSites t | String.ofList x.2 ∈ ks}.ncard =
        (ks.map fun k => (callSitesOf k t).ncard).sum := by
  induction ks with
  | nil => simp
  | cons k ks ih =>
    obtain ⟨hk, hks⟩ := List.forall_mem_cons.mp hks
    obtain ⟨hnew, hnodup⟩ := List.nodup_cons.mp hnodup
    obtain ⟨hfinite, hncard⟩ := ih hks hnodup
    have hsplit : {x ∈ callSites t | String.ofList x.2 ∈ k :: ks} =
        callSitesOf k t ∪ {x ∈ callSites t | String.ofList x.2 ∈ ks} := by
      ext x
      simp only [callSitesOf, List.mem_cons, Set.mem_union, Set.mem_ofPred_eq, and_or_left]
    have hdisjoint : Disjoint (callSitesOf k t) {x ∈ callSites t | String.ofList x.2 ∈ ks} :=
      Set.disjoint_left.mpr fun x hx hx' => hnew (hx.2 ▸ hx'.2)
    rw [hsplit, Set.ncard_union_eq hdisjoint (finite_callSitesOf hk) hfinite, hncard]
    exact ⟨(finite_callSitesOf hk).union hfinite, rfl⟩

theorem ncard_callSites (t : List Char) :
    (callSites t).ncard = (kinds.map fun k => (callSitesOf k t).ncard).sum := by
  have hall : {x ∈ callSites t | String.ofList x.2 ∈ kinds} = callSites t :=
    Set.sep_eq_self_iff_mem_true.mpr fun _ hx => hx.1
  rw [← hall]
  exact (ncard_callSites_of_mem (fun _ hk => hk) nodup_kinds).2

theorem existsUnique_callSitesOf {x : Cursor × List Char} (hx : x ∈ callSites t) :
    ∃! kind, kind ∈ kinds ∧ x ∈ callSitesOf kind t :=
  ⟨String.ofList x.2, ⟨hx.1, hx, rfl⟩, fun _ hkind => hkind.2.2.symm⟩

/-! ### One source -/

theorem positive_callsIn : ∀ x ∈ callsIn t, 0 < x.2 := fun _ hx =>
  of_decide_eq_true (List.mem_filter.mp hx).2

/-- Kinds that are not called add nothing. -/
theorem sum_callsIn (g : String × Nat → Nat) (hg : ∀ k, g (k, 0) = 0) :
    ((callsIn t).map g).sum = (kinds.map fun k => g (k, (callSitesOf k t).ncard)).sum := by
  have hkinds : (kinds.map fun k => (k, (callOf k).count t)) =
      kinds.map fun k => (k, (callSitesOf k t).ncard) :=
    List.map_congr_left fun k hk => by rw [count_callOf hk]
  rw [callsIn, hkinds]
  generalize kinds = ks
  induction ks with
  | nil => rfl
  | cons k ks ih =>
    rw [List.map_cons, List.filter_cons, List.map_cons, List.sum_cons, ← ih]
    split
    · rfl
    · next hzero =>
      have hzero : (callSitesOf k t).ncard = 0 := by simpa using hzero
      rw [hzero, hg, Nat.zero_add]

theorem total_callsIn (t : List Char) : NamedCounts.total (callsIn t) = (callSites t).ncard := by
  rw [NamedCounts.total, sum_callsIn _ fun _ => rfl, ncard_callSites]

theorem count_callsIn (j : String) (t : List Char) :
    ((callsIn t).map fun x => if j = x.1 then x.2 else 0).sum = (callSitesOf j t).ncard := by
  have hothers : ∀ k, k ≠ j → k ∈ kinds → (if j = k then (callSitesOf k t).ncard else 0) = 0 :=
    fun k hne _ => if_neg hne.symm
  rw [sum_callsIn _ fun _ => ite_self 0, List.sum_map_eq_nsmul_single j _ hothers, if_pos rfl]
  by_cases hj : j ∈ kinds
  · rw [List.count_eq_one_of_mem nodup_kinds hj, one_nsmul]
  · have hnone : callSitesOf j t = ∅ :=
      Set.eq_empty_of_forall_notMem fun x hx => hj (hx.2 ▸ hx.1.1)
    rw [hnone, Set.ncard_empty, nsmul_zero]

theorem assertions_addSource (a : SuiteAnalysis) (name source : String) :
    (a.addSource name source).assertions = a.assertions + (callSites source.toList).ncard := by
  rw [← total_callsIn, NamedCounts.total, List.sum_eq_foldl]
  rfl

/-! ### Several sources -/

/-- How an analysis comes about: sources are folded in one by one, and other analyses whole. -/
inductive Folding where
  | empty
  | source (f : Folding) (name text : String)
  | merge (f g : Folding)

namespace Folding

/-- The analysis that comes about. -/
def analysis : Folding → SuiteAnalysis
  | empty => SuiteAnalysis.empty
  | source f name text => f.analysis.addSource name text
  | merge f g => f.analysis.merge g.analysis

/-- The texts of all sources that were folded in. -/
def texts : Folding → List (List Char)
  | empty => []
  | source f _ text => f.texts ++ [text.toList]
  | merge f g => f.texts ++ g.texts

end Folding

/-- Whether an analysis counts the assertions that some texts call. -/
structure Counts (a : SuiteAnalysis) (ts : List (List Char)) : Prop where
  /-- Kinds stand in their order, each once, and none has the count zero. -/
  ordered : NamedCounts.Ordered a.assertionKinds
  total : a.assertions = NamedCounts.total a.assertionKinds
  assertions : a.assertions = (ts.map fun t => (callSites t).ncard).sum
  kinds : ∀ kind, a.assertionKinds.count kind = (ts.map fun t => (callSitesOf kind t).ncard).sum

theorem counts_empty : Counts SuiteAnalysis.empty [] where
  ordered := ⟨.nil, nofun⟩
  total := rfl
  assertions := rfl
  kinds _ := rfl

variable {a b : SuiteAnalysis} {ts us : List (List Char)}

theorem Counts.addSource (h : Counts a ts) (name source : String) :
    Counts (a.addSource name source) (ts ++ [source.toList]) where
  ordered := h.ordered.addAll positive_callsIn
  total := by
    rw [assertions_addSource, h.total, ← total_callsIn]
    exact (NamedCounts.total_addAll _ _).symm
  assertions := by
    rw [assertions_addSource, h.assertions]
    simp
  kinds kind := by
    change (NamedCounts.addAll a.assertionKinds (callsIn source.toList)).count kind = _
    rw [NamedCounts.Ascending.count_addAll h.ordered.ascending, count_callsIn, h.kinds]
    simp

theorem Counts.merge (ha : Counts a ts) (hb : Counts b us) : Counts (a.merge b) (ts ++ us) where
  ordered := ha.ordered.addAll hb.ordered.positive
  total := by
    change a.assertions + b.assertions = NamedCounts.total (NamedCounts.addAll _ _)
    rw [NamedCounts.total_addAll, ha.total, hb.total]
  assertions := by
    change a.assertions + b.assertions = _
    rw [ha.assertions, hb.assertions, List.map_append, List.sum_append]
  kinds kind := by
    change (NamedCounts.addAll a.assertionKinds b.assertionKinds).count kind = _
    rw [NamedCounts.Ascending.count_addAll ha.ordered.ascending,
      ← NamedCounts.Ascending.count_eq_sum hb.ordered.ascending, ha.kinds, hb.kinds, List.map_append,
      List.sum_append]

theorem counts_analysis (f : Folding) : Counts f.analysis f.texts := by
  induction f with
  | empty => exact counts_empty
  | source f name text ih => exact ih.addSource name text
  | merge f g hf hg => exact hf.merge hg

/-- A source adds as many assertions as it has words that call one, each of which calls one kind; and
whatever is folded in, the assertions are those of the kinds and those of the sources. -/
theorem assertions_eq_calls :
    (∀ (a : SuiteAnalysis) (name source : String),
      (a.addSource name source).assertions = a.assertions + (callSites source.toList).ncard) ∧
    (∀ t, ∀ x ∈ callSites t, ∃! kind, kind ∈ kinds ∧ x ∈ callSitesOf kind t) ∧
    ∀ f : Folding, Counts f.analysis f.texts :=
  ⟨assertions_addSource, fun _ _ => existsUnique_callSitesOf, counts_analysis⟩

/-- Two calls, and a word that only ends like one. -/
def twoCalls : String := "assertNotNull (x); xfail(); fail(\"\")"

theorem assertions_eq_calls_twoCalls : (callSites twoCalls.toList).ncard = 2 := by
  have hadded : (SuiteAnalysis.empty.addSource "T" twoCalls).assertions = 2 := by decide
  have hsites := assertions_eq_calls.1 SuiteAnalysis.empty "T" twoCalls
  rw [hadded] at hsites
  exact (hsites.trans (Nat.zero_add _)).symm

end SuiteAnalysis

end SuiteBench
