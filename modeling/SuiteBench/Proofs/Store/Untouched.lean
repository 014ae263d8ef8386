import SuiteBench.Proofs.Store.Rewriting
import SuiteBench.Proofs.Store.Listing

/-!
# Proofs.Store.Untouched — a part of a tree that nothing touches

Steps that touch none of some locations leave what stands there in its order, whatever else they do.
What is picked from these locations alone is then the same, without any assumption about the tree.
-/

namespace SuiteBench

namespace Tree

variable {P : Location → Prop} [DecidablePred P] {t u v : Tree} {l m : Location} {e : Entry}

/-- The entries at some locations, in their order. -/
def entriesAt (P : Location → Prop) [DecidablePred P] (t : Tree) : List (Location × Entry) :=
  t.entries.filter fun x => decide (P x.1)

/-- Whether the same stands at some locations in two trees, in the same order. -/
def Untouched (P : Location → Prop) [DecidablePred P] (t u : Tree) : Prop :=
  u.entriesAt P = t.entriesAt P

namespace Untouched

theorem refl (t : Tree) : Untouched P t t := rfl

theorem trans (h : Untouched P t u) (h' : Untouched P u v) : Untouched P t v := Eq.trans h' h

theorem of_set (hl : ¬ P l) : Untouched P t (t.set l e) := by
  rw [Untouched, entriesAt, entriesAt, set, List.filter_append, List.filter_filter,
    List.filter_singleton, decide_eq_false hl, cond_false, List.append_nil]
  refine List.filter_congr fun x _ => ?_
  by_cases hx : x.1 = l
  · simp [hx, hl]
  · simp [hx]

theorem of_cut (hl : ∀ m, P m → ¬ l <+: m) : Untouched P t (t.cut l) := by
  rw [Untouched, entriesAt, entriesAt, cut, List.filter_filter]
  refine List.filter_congr fun x _ => ?_
  by_cases hx : P x.1
  · have hp : l.isPrefixOf x.1 = false :=
      Bool.eq_false_iff.mpr fun hp => hl x.1 hx (List.isPrefixOf_iff_prefix.mp hp)
    simp [hx, hp]
  · simp [hx]

theorem of_foldlM_makeDir : ∀ (ps : List Location) {t u : Tree}, ps.foldlM makeDir t = .ok u →
    (∀ p ∈ ps, ¬ P p) → Untouched P t u
  | [], _, _, h, _ => by
    cases h
    rfl
  | p :: ps, t, u, h, hP => by
    obtain ⟨hp, hps⟩ := List.forall_mem_cons.mp hP
    rw [List.foldlM_cons] at h
    cases hv : t.makeDir p with
    | error f =>
      rw [hv] at h
      cases h
    | ok v =>
      rw [hv] at h
      refine trans ?_ (of_foldlM_makeDir ps h hps)
      unfold makeDir at hv
      split at hv
      · cases hv
        rfl
      · cases hv
      · cases hv
        exact of_set hp

theorem of_apply {s : Step} (hs : s.apply t = .ok u) (h : ∀ m, P m → ¬ s.Touches m) :
    Untouched P t u := by
  cases s with
  | makeDirs l =>
    have hm : t.makeDirs l = .ok u := hs
    rw [makeDirs_eq] at hm
    split at hm
    · cases hm
      rfl
    · cases hm
    · exact of_foldlM_makeDir _ hm fun p hp hPp => h p hPp (mem_way.mp hp).2
  | write l c =>
    obtain ⟨-, x, rfl⟩ := Step.apply_write hs
    exact of_set fun hPl => h l hPl rfl
  | rename a b =>
    obtain ⟨-, -, e, -, rfl⟩ := Step.apply_rename hs
    exact (of_cut fun m hm hp => h m hm (.inl hp)).trans (of_set fun hPb => h b hPb (.inr rfl))
  | remove l =>
    obtain ⟨-, rfl⟩ := Step.apply_remove hs
    exact of_cut fun m hm hp => h m hm hp

/-! ### What is read at the locations -/

theorem find?_eq (h : Untouched P t u) (hm : P m) : u.find? m = t.find? m := by
  by_cases h0 : m = []
  · rw [h0]
    rfl
  · have hlook := congrArg (List.lookup m) h
    rw [entriesAt, entriesAt, lookup_filter_fst (fun k => decide (P k)),
      lookup_filter_fst (fun k => decide (P k)), if_pos (decide_eq_true hm),
      if_pos (decide_eq_true hm)] at hlook
    rw [find?_of_ne_nil _ h0, find?_of_ne_nil _ h0, hlook]

/-- What is picked from the locations is the same, in the same order. -/
theorem filterMap_eq {α : Type} {f : Location × Entry → Option α} (h : Untouched P t u)
    (hf : ∀ x, f x ≠ none → P x.1) : u.entries.filterMap f = t.entries.filterMap f := by
  have hpick : ∀ w : Tree, w.entries.filterMap f = (w.entriesAt P).filterMap f := fun w => by
    rw [entriesAt, List.filterMap_filter]
    refine List.filterMap_congr fun x _ => ?_
    by_cases hx : f x = none
    · simp [hx]
    · simp [hf x hx]
  rw [hpick u, hpick t, h]

/-- The children of some kind are the same if they stand at the locations. -/
theorem children_eq {α : Type} {f : String × Entry → Option α} (h : Untouched P t u)
    (hf : ∀ x, f x ≠ none → P (l ++ [x.1])) :
    (u.children l).filterMap f = (t.children l).filterMap f := by
  rw [children, children, List.filterMap_filterMap, List.filterMap_filterMap]
  refine h.filterMap_eq ?_
  rintro ⟨k, e⟩ hne
  obtain ⟨y, hy⟩ := Option.ne_none_iff_exists'.mp hne
  obtain ⟨x, hx, hxy⟩ := Option.bind_eq_some_iff.mp hy
  obtain ⟨rfl, rfl⟩ := child_eq_some_iff.mp hx
  exact hf x (by simp [hxy])

/-- The files below a location are the same if all that is below it is at the locations. -/
theorem filesBelow_eq (h : Untouched P t u) (hl : ∀ m, l <+: m → P m) :
    u.filesBelow l = t.filesBelow l :=
  filesBelow_congr fun _ hf => h.filterMap_eq fun x hx => hl x.1 (hf x hx)

end Untouched

end Tree

end SuiteBench
