import SuiteBench.Proofs.Store.Tree

/-!
# Proofs.Store.Steps — what a list of steps leaves as it was

A step touches few locations; everything else stands as before, also when a list of steps is cut short
by a failure.  A file that is replaced holds its new content, and its hidden neighbour is gone.
-/

namespace SuiteBench

namespace Step

variable {t u : Tree} {s : Step} {steps : List Step} {l m : Location} {c : ByteArray}

/-- The locations at which a step may put or clear something. -/
def Touches : Step → Location → Prop
  | makeDirs d, m => m <+: d
  | write d _, m => m = d
  | rename source target, m => source <+: m ∨ m = target
  | remove d, m => d <+: m

/-- The locations from which a step may take what stands there: making directories takes nothing. -/
def Replaces : Step → Location → Prop
  | makeDirs _, _ => False
  | s, m => s.Touches m

theorem Replaces.touches (h : s.Replaces m) : s.Touches m := by
  cases s with
  | makeDirs d => exact h.elim
  | write d c => exact h
  | rename a b => exact h
  | remove d => exact h

theorem apply_write (h : (write l c).apply t = .ok u) :
    t.obstacle? l.dropLast = none ∧ ∃ x, u = t.set l (.file c x) := by
  simp only [apply] at h
  split at h
  · cases h
  · next ho =>
    refine ⟨ho, ?_⟩
    split at h
    · cases h
    · next x hf => cases h; exact ⟨x, rfl⟩
    · cases h; exact ⟨false, rfl⟩

theorem apply_rename {source target : Location} (h : (rename source target).apply t = .ok u) :
    t.obstacle? target.dropLast = none ∧ t.isDirectory target = false ∧
      ∃ e, t.get source = .ok e ∧ u = (t.cut source).set target e := by
  simp only [apply] at h
  split at h
  · cases h
  · next e hg =>
    split at h
    · cases h
    · next ho =>
      split at h
      · cases h
      · next hd => cases h; exact ⟨ho, by simpa using hd, e, hg, rfl⟩

theorem apply_remove (h : (remove l).apply t = .ok u) :
    t.get l = .ok .directory ∧ u = t.cut l := by
  simp only [apply] at h
  split at h
  · next hg => cases h; exact ⟨hg, rfl⟩
  · cases h
  · cases h

/-- A step changes nothing where it does not touch. -/
theorem find?_apply (h : s.apply t = .ok u) (hm : ¬ s.Touches m) : u.find? m = t.find? m := by
  cases s with
  | makeDirs d => exact (Tree.makeDirs_spec h).2.1 m hm
  | write d c =>
    obtain ⟨-, x, rfl⟩ := apply_write h
    exact Tree.find?_set_of_ne t _ hm
  | rename a b =>
    obtain ⟨-, -, e, -, rfl⟩ := apply_rename h
    have hab : ¬ a <+: m ∧ m ≠ b := not_or.mp hm
    rw [Tree.find?_set_of_ne _ _ hab.2, Tree.find?_cut_elsewhere t hab.1]
  | remove d =>
    obtain ⟨-, rfl⟩ := apply_remove h
    exact Tree.find?_cut_elsewhere t hm

/-- What stands where a step does not replace anything still stands after it. -/
theorem find?_apply_some (h : s.apply t = .ok u) (hm : ¬ s.Replaces m) {e : Entry}
    (he : t.find? m = some e) : u.find? m = some e := by
  cases s with
  | makeDirs d => exact (Tree.makeDirs_spec h).2.2 m e he
  | write d c => rw [find?_apply h hm, he]
  | rename a b => rw [find?_apply h hm, he]
  | remove d => rw [find?_apply h hm, he]

/-! ### Lists of steps -/

theorem run_cons_ok {rest : List Step} {v : Tree} (h : s.apply t = .ok v) :
    run t (s :: rest) = run v rest := by
  simp [run, h]

theorem run_cons_eq_none {rest : List Step} :
    run t (s :: rest) = (u, none) ↔ ∃ v, s.apply t = .ok v ∧ run v rest = (u, none) := by
  cases hs : s.apply t with
  | ok v => rw [run_cons_ok hs]; simp
  | error e => simp [run, hs]

theorem run_append_eq_none {a b : List Step} :
    run t (a ++ b) = (u, none) ↔ ∃ v, run t a = (v, none) ∧ run v b = (u, none) := by
  induction a generalizing t with
  | nil => simp [run]
  | cons s a ih =>
    rw [List.cons_append, run_cons_eq_none]
    constructor
    · rintro ⟨v, hs, h⟩
      obtain ⟨w, h1, h2⟩ := ih.mp h
      exact ⟨w, run_cons_eq_none.mpr ⟨v, hs, h1⟩, h2⟩
    · rintro ⟨w, h1, h2⟩
      obtain ⟨v, hs, h1⟩ := run_cons_eq_none.mp h1
      exact ⟨v, hs, ih.mpr ⟨w, h1, h2⟩⟩

/-- Steps that follow others are run on what these leave, unless they are cut short. -/
theorem run_append_cases {a b : List Step} {e : Option FileError} (h : run t (a ++ b) = (u, e)) :
    (∃ v, run t a = (v, none) ∧ run v b = (u, e)) ∨ ∃ e', run t a = (u, some e') := by
  induction a generalizing t with
  | nil => exact .inl ⟨t, rfl, h⟩
  | cons s a ih =>
    cases hs : s.apply t with
    | ok v =>
      rw [List.cons_append, run_cons_ok hs] at h
      rw [run_cons_ok hs]
      exact ih h
    | error e' =>
      rw [List.cons_append, run, hs] at h
      cases h
      exact .inr ⟨e', by rw [run, hs]⟩

/-- A property that every step keeps holds of the tree that steps leave, cut short or not. -/
theorem run_induction {P : Tree → Prop} :
    ∀ (steps : List Step) {t : Tree},
      (∀ s ∈ steps, ∀ v w, s.apply v = .ok w → P v → P w) → P t → P (run t steps).1
  | [], _, _, h => h
  | s :: steps, t, hs, h => by
    cases ha : s.apply t with
    | error e => simpa [run, ha] using h
    | ok v =>
      rw [run_cons_ok ha]
      exact run_induction steps (fun s' hs' => hs s' (List.mem_cons_of_mem _ hs'))
        (hs s List.mem_cons_self t v ha h)

theorem find?_run (hm : ∀ s ∈ steps, ¬ s.Touches m) : (run t steps).1.find? m = t.find? m :=
  run_induction (P := fun v => v.find? m = t.find? m) steps
    (fun s hs _ _ ha h => (find?_apply ha (hm s hs)).trans h) rfl

theorem find?_run_some (hm : ∀ s ∈ steps, ¬ s.Replaces m) {e : Entry}
    (he : t.find? m = some e) : (run t steps).1.find? m = some e :=
  run_induction (P := fun v => v.find? m = some e) steps
    (fun s hs _ _ ha h => find?_apply_some ha (hm s hs) h) he

theorem find?_of_run {e : Option FileError} (h : run t steps = (u, e))
    (hm : ∀ s ∈ steps, ¬ s.Touches m) : u.find? m = t.find? m := by
  have hf := find?_run (t := t) hm
  rwa [h] at hf

/-- What can be read is still read after steps that replace nothing on the way. -/
theorem read_run (hm : ∀ s ∈ steps, ∀ p, p <+: l → ¬ s.Replaces p) (h : t.read l = .ok c) :
    (run t steps).1.read l = .ok c := by
  obtain ⟨ho, x, hf⟩ := Tree.read_eq_ok_iff.mp h
  refine Tree.read_eq_ok_iff.mpr ⟨Tree.obstacle?_eq_none_iff.mpr fun p hp => ?_, x, ?_⟩
  · exact find?_run_some (fun s hs => hm s hs p (hp.trans (List.dropLast_prefix l)))
      (Tree.obstacle?_eq_none_iff.mp ho p hp)
  · exact find?_run_some (fun s hs => hm s hs l (List.prefix_refl l)) hf

/-! ### Replacing a file -/

/-- The name under which the content of a file is prepared. -/
def hiddenName (name : String) : String := "." ++ name ++ ".tmp"

/-- The hidden neighbour of a file. -/
def hidden (l : Location) : Location := l.dropLast ++ [hiddenName (l.getLast?.getD "")]

theorem replace_eq (l : Location) (c : ByteArray) :
    replace l c = [.write (hidden l) c, .rename (hidden l) l] := rfl

@[simp] theorem hidden_concat (d : Location) (name : String) :
    hidden (d ++ [name]) = d ++ [hiddenName name] := by
  simp [hidden]

theorem hiddenName_ne_self (name : String) : hiddenName name ≠ name := by
  intro h
  have hl := congrArg String.length h
  simp only [hiddenName, String.length_append] at hl
  have h1 : ".".length = 1 := rfl
  have h2 : ".tmp".length = 4 := by decide
  omega

/-- Only hidden names start with a dot. -/
theorem hiddenName_ne {a b : String} (h : b.toList.head? ≠ some '.') : hiddenName a ≠ b := by
  rintro rfl
  simp [hiddenName] at h

theorem hidden_ne (h : l ≠ []) : hidden l ≠ l := by
  obtain ⟨d, a, rfl⟩ := (List.eq_nil_or_concat l).resolve_left h
  rw [List.concat_eq_append, hidden_concat]
  intro he
  simp [hiddenName_ne_self] at he

theorem hidden_length (h : l ≠ []) : (hidden l).length = l.length := by
  have := List.length_pos_iff.mpr h
  simp [hidden]
  omega

theorem not_hidden_prefix (h : l ≠ []) : ¬ hidden l <+: l := fun hp =>
  hidden_ne h (hp.eq_of_length (hidden_length h))

theorem not_hidden_prefix_dropLast (h : l ≠ []) {p : Location} (hp : p <+: l.dropLast) :
    ¬ hidden l <+: p := fun hh =>
  not_hidden_prefix h ((hh.trans hp).trans (List.dropLast_prefix l))

theorem replace_touches (hs : s ∈ replace l c) (h : s.Touches m) : hidden l <+: m ∨ m = l := by
  rw [replace_eq] at hs
  rcases List.mem_cons.mp hs with rfl | hs
  · exact .inl (h ▸ List.prefix_refl _)
  · obtain rfl := List.mem_singleton.mp hs
    exact h

/-- Replacing a file takes nothing on the way to a location that lies neither at or below it nor at or
below its hidden neighbour. -/
theorem replace_spares {k : Location} (h1 : ¬ l <+: k) (h2 : ¬ hidden l <+: k)
    (hs : s ∈ replace l c) : ∀ p, p <+: k → ¬ s.Replaces p := by
  intro p hp hr
  rcases replace_touches hs hr.touches with h | rfl
  · exact h2 (h.trans hp)
  · exact h1 hp

/-- Replacing a file touches only what lies in its directory. -/
theorem find?_replace_outside {d : Location} {a : String} {e : Option FileError}
    (h : run t (replace (d ++ [a]) c) = (u, e)) (hm : ¬ d <+: m) : u.find? m = t.find? m := by
  refine find?_of_run h fun s hs ht => hm ?_
  rcases replace_touches hs ht with h | rfl
  · rw [hidden_concat] at h
    exact (List.prefix_append d _).trans h
  · exact List.prefix_append d _

/-- Replacing a file touches neither its siblings nor the way to them. -/
theorem find?_replace_sibling {d p : Location} {a b : String} {e : Option FileError}
    (h : run t (replace (d ++ [a]) c) = (u, e)) (hab : a ≠ b) (hh : hiddenName a ≠ b)
    (hp : p <+: d ++ [b]) : u.find? p = t.find? p := by
  have hname : ∀ x, d ++ [x] <+: d ++ [b] → x = b := fun x h => by
    simpa using h.eq_of_length (by simp)
  refine find?_of_run h fun s hs ht => ?_
  rcases replace_touches hs ht with h | rfl
  · rw [hidden_concat] at h
    exact hh (hname _ (h.trans hp))
  · exact hab (hname _ hp)

/-- A replaced file holds its new content and stands where it stood. -/
theorem run_replace (h : run t (replace l c) = (u, none)) (hl : l ≠ []) :
    u.read l = .ok c ∧ u.find? (hidden l) = none := by
  rw [replace_eq, run_cons_eq_none] at h
  obtain ⟨v, hw, h⟩ := h
  obtain ⟨w, hr, h⟩ := run_cons_eq_none.mp h
  cases h
  obtain ⟨-, x, rfl⟩ := apply_write hw
  obtain ⟨ho, -, e, hg, rfl⟩ := apply_rename hr
  have hh : hidden l ≠ [] := by
    intro h0
    have := hidden_length hl
    rw [h0] at this
    exact hl (List.length_eq_zero_iff.mp this.symm)
  have he : e = .file c x := by
    have := (Tree.get_eq_ok_iff.mp hg).2
    rw [Tree.find?_set _ _ hh] at this
    exact (Option.some.inj this).symm
  subst he
  refine ⟨Tree.read_eq_ok_iff.mpr ⟨Tree.obstacle?_eq_none_iff.mpr fun p hp => ?_, x, ?_⟩, ?_⟩
  · have hpl : p ≠ l := by
      rintro rfl
      have := hp.length_le
      have := List.length_pos_iff.mpr hl
      simp at *
      omega
    rw [Tree.find?_set_of_ne _ _ hpl,
      Tree.find?_cut_elsewhere _ (not_hidden_prefix_dropLast hl hp)]
    exact Tree.obstacle?_eq_none_iff.mp ho p hp
  · exact Tree.find?_set _ _ hl
  · rw [Tree.find?_set_of_ne _ _ (hidden_ne hl),
      Tree.find?_cut_below _ (List.prefix_refl _) hh]

/-- What stands after a file is replaced is this file or stood there before. -/
theorem find?_of_replaced (h : run t (replace l c) = (u, none)) {e : Entry}
    (he : u.find? m = some e) : m = l ∨ t.find? m = some e := by
  by_cases hml : m = l
  · exact .inl hml
  rw [replace_eq, run_cons_eq_none] at h
  obtain ⟨v, hw, h⟩ := h
  obtain ⟨w, hr, h⟩ := run_cons_eq_none.mp h
  cases h
  obtain ⟨-, -, x, -, rfl⟩ := apply_rename hr
  rw [Tree.find?_set_of_ne _ _ hml] at he
  by_cases hm0 : m = []
  · subst hm0
    exact .inr he
  · have hh : ¬ hidden l <+: m := fun hh => by
      rw [Tree.find?_cut_below v hh hm0] at he
      cases he
    rw [Tree.find?_cut_elsewhere v hh] at he
    exact .inr ((find?_apply hw fun hmh : m = hidden l => hh (hmh ▸ List.prefix_refl _)).symm.trans he)

/-- A replacement that is cut short leaves at most the hidden neighbour behind. -/
theorem find?_replace_cut {e : FileError} (h : run t (replace l c) = (u, some e))
    (hm : ¬ hidden l <+: m) : u.find? m = t.find? m := by
  rw [replace_eq] at h
  cases hw : (write (hidden l) c).apply t with
  | error e' =>
    rw [run, hw] at h
    cases h
    rfl
  | ok v =>
    rw [run_cons_ok hw] at h
    cases hr : (rename (hidden l) l).apply v with
    | ok w => rw [run_cons_ok hr] at h; cases h
    | error e' =>
      rw [run, hr] at h
      cases h
      exact find?_apply hw fun hmh => hm (hmh ▸ List.prefix_refl _)

/-- A file can be replaced where its directory is and no directory stands in its place. -/
theorem replace_succeeds (hl : l ≠ []) (ho : t.obstacle? l.dropLast = none)
    (hd : t.isDirectory l = false) (hh : t.isDirectory (hidden l) = false) (c : ByteArray) :
    ∃ u, run t (replace l c) = (u, none) := by
  have hne : hidden l ≠ [] := by
    intro h0
    have := hidden_length hl
    rw [h0] at this
    exact hl (List.length_eq_zero_iff.mp this.symm)
  have hdir : (hidden l).dropLast = l.dropLast := by simp [hidden]
  have hw : ∃ x, (write (hidden l) c).apply t = .ok (t.set (hidden l) (.file c x)) := by
    simp only [apply, hdir, ho]
    cases hf : t.find? (hidden l) with
    | none => exact ⟨false, rfl⟩
    | some e =>
      cases e with
      | directory => simp [Tree.isDirectory, hf, Entry.isDirectory] at hh
      | file b x => exact ⟨x, rfl⟩
  obtain ⟨x, hw⟩ := hw
  have hset : ∀ p, p <+: l.dropLast → (t.set (hidden l) (.file c x)).find? p = t.find? p :=
    fun p hp => Tree.find?_set_of_ne t _ fun he =>
      not_hidden_prefix_dropLast hl hp (he ▸ List.prefix_refl _)
  have ho' : (t.set (hidden l) (.file c x)).obstacle? l.dropLast = none := by
    rw [Tree.obstacle?_congr hset, ho]
  have hg : (t.set (hidden l) (.file c x)).get (hidden l) = .ok (.file c x) :=
    Tree.get_eq_ok_iff.mpr ⟨by rw [hdir, ho'], Tree.find?_set _ _ hne⟩
  have hl' : (t.set (hidden l) (.file c x)).isDirectory l = false := by
    rw [Tree.isDirectory, Tree.find?_set_of_ne _ _ (hidden_ne hl).symm]
    exact hd
  have hr : (rename (hidden l) l).apply (t.set (hidden l) (.file c x)) =
      .ok (((t.set (hidden l) (.file c x)).cut (hidden l)).set l (.file c x)) := by
    simp only [apply, hg, ho', hl', Bool.false_eq_true, if_false]
  exact ⟨_, run_cons_eq_none.mpr ⟨_, hw, run_cons_eq_none.mpr ⟨_, hr, rfl⟩⟩⟩

end Step

end SuiteBench
