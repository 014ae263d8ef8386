import Mathlib.Data.List.Infix
import SuiteBench.Store.Tree

/-!
# Proofs.Store.Tree — what stands where after a change

`find?` is the view of a tree: an entry is set at one location, a cut clears a location and all below
it.  What can be reached at a location depends only on the view at the locations on the way to it.
-/

namespace SuiteBench

namespace Tree

variable {t u : Tree} {l m : Location}

@[simp] theorem find?_nil (t : Tree) : t.find? [] = some .directory := rfl

theorem find?_of_ne_nil (t : Tree) (h : l ≠ []) : t.find? l = t.entries.lookup l := by
  cases l with
  | nil => exact absurd rfl h
  | cons a l => rfl

/-! ### Setting and cutting -/

theorem lookup_filter_fst {α β : Type} [BEq α] [LawfulBEq α] (p : α → Bool) (k : α) :
    ∀ es : List (α × β),
      (es.filter fun x => p x.1).lookup k = if p k then es.lookup k else none
  | [] => by simp
  | (a, b) :: es => by
    have ih := lookup_filter_fst p k es
    by_cases hk : k = a
    · subst hk
      by_cases hp : p k <;> simp [hp, ih]
    · have hka : (k == a) = false := by simpa using hk
      by_cases hp : p a <;> simp [hp, List.lookup_cons, hka, ih]

/-- Where no key has two values, each value is found by its key. -/
theorem lookup_eq_some_iff_mem {α β : Type} [BEq α] [LawfulBEq α] {k : α} {v : β} :
    ∀ {es : List (α × β)}, (es.map Prod.fst).Nodup → (es.lookup k = some v ↔ (k, v) ∈ es)
  | [], _ => by simp
  | (a, b) :: es, h => by
    obtain ⟨ha, hes⟩ := List.nodup_cons.mp h
    have ih := lookup_eq_some_iff_mem (k := k) (v := v) hes
    by_cases hk : k = a
    · subst hk
      have hnot : (k, v) ∉ es := fun hm => ha (List.mem_map.mpr ⟨_, hm, rfl⟩)
      simp [hnot, eq_comm]
    · have hka : (k == a) = false := by simpa using hk
      simp [List.lookup_cons, hka, ih, hk]

theorem find?_set (t : Tree) (e : Entry) (h : l ≠ []) : (t.set l e).find? l = some e := by
  rw [find?_of_ne_nil _ h]
  simp [set, List.lookup_append, lookup_filter_fst (fun k => k != l) l t.entries]

theorem find?_set_of_ne (t : Tree) (e : Entry) (h : m ≠ l) :
    (t.set l e).find? m = t.find? m := by
  by_cases hm : m = []
  · subst hm; rfl
  · have hml : (m == l) = false := by simpa using h
    rw [find?_of_ne_nil _ hm, find?_of_ne_nil _ hm, set, List.lookup_append,
      lookup_filter_fst (fun k => k != l) m t.entries, List.lookup_cons, hml]
    simp [h]

theorem find?_cut_below (t : Tree) (h : l <+: m) (hm : m ≠ []) :
    (t.cut l).find? m = none := by
  rw [find?_of_ne_nil _ hm, cut, lookup_filter_fst (fun k => !l.isPrefixOf k) m t.entries,
    List.isPrefixOf_iff_prefix.mpr h]
  rfl

theorem find?_cut_elsewhere (t : Tree) (h : ¬ l <+: m) :
    (t.cut l).find? m = t.find? m := by
  by_cases hm : m = []
  · subst hm; rfl
  · have hp : l.isPrefixOf m = false :=
      Bool.eq_false_iff.mpr fun hp => h (List.isPrefixOf_iff_prefix.mp hp)
    rw [find?_of_ne_nil _ hm, find?_of_ne_nil _ hm, cut,
      lookup_filter_fst (fun k => !l.isPrefixOf k) m t.entries, hp]
    rfl

/-! ### The way to a location -/

theorem mem_way {p : Location} : p ∈ l.way ↔ p ≠ [] ∧ p <+: l := by
  simp only [Location.way, List.mem_map, List.mem_range]
  constructor
  · rintro ⟨n, hn, rfl⟩
    refine ⟨?_, List.take_prefix _ _⟩
    cases l with
    | nil => simp at hn
    | cons a l => simp
  · rintro ⟨h0, h⟩
    have hlen : 0 < p.length := List.length_pos_iff.mpr h0
    refine ⟨p.length - 1, ?_, ?_⟩
    · have := h.length_le
      omega
    · rw [show p.length - 1 + 1 = p.length by omega]
      exact (List.prefix_iff_eq_take.mp h).symm

theorem obstacle?_eq_none_iff :
    t.obstacle? l = none ↔ ∀ p, p <+: l → t.find? p = some .directory := by
  rw [obstacle?, List.findSome?_eq_none_iff]
  constructor
  · intro h p hp
    by_cases h0 : p = []
    · subst h0; rfl
    · have hw := h p (mem_way.mpr ⟨h0, hp⟩)
      split at hw
      · assumption
      · simp at hw
      · simp at hw
  · intro h p hp
    rw [h p (mem_way.mp hp).2]

theorem obstacle?_congr (h : ∀ p, p <+: l → t.find? p = u.find? p) :
    t.obstacle? l = u.obstacle? l := by
  unfold obstacle?
  have hw : ∀ p ∈ l.way, t.find? p = u.find? p := fun p hp => h p (mem_way.mp hp).2
  generalize l.way = ps at hw
  induction ps with
  | nil => rfl
  | cons p ps ih =>
    rw [List.findSome?_cons, List.findSome?_cons, hw p (by simp),
      ih fun q hq => hw q (by simp [hq])]

theorem get_eq_ok_iff {e : Entry} :
    t.get l = .ok e ↔ t.obstacle? l.dropLast = none ∧ t.find? l = some e := by
  unfold get
  split
  · next o ho => simp [ho]
  · next ho =>
    cases hf : t.find? l with
    | none => simp
    | some x => simp [ho]

theorem get_congr (h : ∀ p, p <+: l → t.find? p = u.find? p) : t.get l = u.get l := by
  unfold get
  rw [h l (List.prefix_refl l),
    obstacle?_congr fun p hp => h p (hp.trans (List.dropLast_prefix l))]

theorem read_congr (h : ∀ p, p <+: l → t.find? p = u.find? p) : t.read l = u.read l := by
  rw [read, read, get_congr h]

/-- Something that is put beside the way to a location is not seen there. -/
theorem read_set {e : Entry} (h : ¬ m <+: l) : (t.set m e).read l = t.read l :=
  read_congr fun _ hp => find?_set_of_ne t e fun he => h (he ▸ hp)

theorem read_eq_ok_iff {c : ByteArray} :
    t.read l = .ok c ↔
      t.obstacle? l.dropLast = none ∧ ∃ x, t.find? l = some (.file c x) := by
  unfold read
  cases hg : t.get l with
  | error e =>
    simp only [reduceCtorEq, false_iff, not_and, not_exists]
    intro ho x hf
    rw [get_eq_ok_iff.mpr ⟨ho, hf⟩] at hg
    cases hg
  | ok e =>
    obtain ⟨ho, hf⟩ := get_eq_ok_iff.mp hg
    cases e with
    | directory => simp [hf]
    | file d x => simp [ho, hf]

/-- What can be read at a location stands there under directories alone. -/
theorem find?_of_read {c : ByteArray} (h : t.read l = .ok c) {p : Location} (hp : p <+: l)
    (hne : p ≠ l) : t.find? p = some .directory := by
  refine obstacle?_eq_none_iff.mp (read_eq_ok_iff.mp h).1 p ?_
  rcases List.eq_nil_or_concat l with rfl | ⟨q, a, rfl⟩
  · exact absurd (List.prefix_nil.mp hp) hne
  · rw [List.concat_eq_append] at hp hne ⊢
    rw [List.dropLast_concat]
    exact (List.prefix_concat_iff.mp hp).resolve_left hne

/-! ### Making directories -/

/-- Makes a directory where nothing stands. -/
def makeDir (t : Tree) (p : Location) : Except FileError Tree :=
  match t.find? p with
  | some .directory => .ok t
  | some (.file ..) => .error .notADirectory
  | none => .ok (t.set p .directory)

theorem makeDir_spec {p : Location} (h : t.makeDir p = .ok u) :
    u.find? p = some .directory ∧ (∀ m, m ≠ p → u.find? m = t.find? m) ∧
      ∀ m e, t.find? m = some e → u.find? m = some e := by
  unfold makeDir at h
  split at h
  · next hd =>
    cases h
    exact ⟨hd, fun _ _ => rfl, fun _ _ hm => hm⟩
  · cases h
  · next hn =>
    cases h
    have h0 : p ≠ [] := by rintro rfl; simp at hn
    refine ⟨find?_set t _ h0, fun m hm => find?_set_of_ne t _ hm, fun m e hm => ?_⟩
    have hne : m ≠ p := by rintro rfl; rw [hn] at hm; cases hm
    rw [find?_set_of_ne t _ hne, hm]

theorem foldlM_makeDir_spec : ∀ (ps : List Location) {t u : Tree}, ps.foldlM makeDir t = .ok u →
    (∀ p ∈ ps, u.find? p = some .directory) ∧ (∀ m, m ∉ ps → u.find? m = t.find? m) ∧
      ∀ m e, t.find? m = some e → u.find? m = some e
  | [], t, u, h => by
    cases h
    exact ⟨by simp, fun _ _ => rfl, fun _ _ hm => hm⟩
  | p :: ps, t, u, h => by
    rw [List.foldlM_cons] at h
    cases hp : t.makeDir p with
    | error e => rw [hp] at h; cases h
    | ok v =>
      rw [hp] at h
      obtain ⟨a1, a2, a3⟩ := makeDir_spec hp
      obtain ⟨b1, b2, b3⟩ := foldlM_makeDir_spec ps (t := v) h
      refine ⟨?_, fun m hm => ?_, fun m e hm => b3 m e (a3 m e hm)⟩
      · intro q hq
        rcases List.mem_cons.mp hq with rfl | hq
        · exact b3 _ _ a1
        · exact b1 q hq
      · rw [b2 m fun hq => hm (List.mem_cons_of_mem _ hq),
          a2 m fun hq => hm (hq ▸ List.mem_cons_self)]

theorem makeDirs_eq (t : Tree) (l : Location) :
    t.makeDirs l = match t.find? l with
      | some .directory => .ok t
      | some (.file ..) => .error .alreadyThere
      | none => l.way.foldlM makeDir t := rfl

/-- Making a directory changes nothing but the absence of directories on the way to it. -/
theorem makeDirs_spec (h : t.makeDirs l = .ok u) :
    u.find? l = some .directory ∧ (∀ m, ¬ m <+: l → u.find? m = t.find? m) ∧
      ∀ m e, t.find? m = some e → u.find? m = some e := by
  rw [makeDirs_eq] at h
  split at h
  · next hd =>
    cases h
    exact ⟨hd, fun _ _ => rfl, fun _ _ hm => hm⟩
  · cases h
  · next hn =>
    have h0 : l ≠ [] := by rintro rfl; simp at hn
    obtain ⟨h1, h2, h3⟩ := foldlM_makeDir_spec _ h
    exact ⟨h1 l (mem_way.mpr ⟨h0, List.prefix_refl l⟩),
      fun m hm => h2 m fun hw => hm (mem_way.mp hw).2, h3⟩

/-- Where nothing stood, the whole way is made. -/
theorem makeDirs_way (h : t.makeDirs l = .ok u) (hn : t.find? l = none) {p : Location}
    (hp : p <+: l) : u.find? p = some .directory := by
  rw [makeDirs_eq, hn] at h
  by_cases h0 : p = []
  · subst h0; rfl
  · exact (foldlM_makeDir_spec _ h).1 p (mem_way.mpr ⟨h0, hp⟩)

end Tree

end SuiteBench
