import Mathlib.Data.List.Induction
import Mathlib.Data.List.Perm.Subperm
import Mathlib.Logic.Relation
import SuiteBench.Pattern.Basic

/-!
# Proofs.Pattern.Matching — a text holds a match just where its pattern leads somewhere

`Pattern.Leads` reads a pattern as a relation between places.  A search works on sets of places
instead, kept as lists in the order of the text: these hold just the places that the relation leads
to, so a text holds a match if and only if the pattern leads on from one of its places.
-/

namespace SuiteBench

open Relation (ReflTransGen)

namespace Cursor

/-- Whether a cursor is a place of a text. -/
def Of (t : List Char) (c : Cursor) : Prop := ∃ u v, t = u ++ v ∧ c = ⟨u.length, u.getLast?, v⟩

/-- Whether a character of `s` stands between two places. -/
def Next (s : CharSet) (c d : Cursor) : Prop := c.step? s = some d

variable {t : List Char} {s : CharSet} {c d e : Cursor}

theorem of_start (t : List Char) : (start t).Of t := ⟨[], t, rfl, rfl⟩

/-- A text has one place of each index. -/
theorem Of.eq_of_index (hc : c.Of t) (hd : d.Of t) (h : c.index = d.index) : c = d := by
  obtain ⟨u, v, rfl, rfl⟩ := hc
  obtain ⟨u', v', htext, rfl⟩ := hd
  obtain ⟨rfl, rfl⟩ := List.append_inj htext h
  rfl

theorem Of.index_le (h : c.Of t) : c.index ≤ t.length := by
  obtain ⟨u, v, rfl, rfl⟩ := h
  simp

theorem next_iff : c.Next s d ↔
    ∃ x rest, c.rest = x :: rest ∧ s.has x = true ∧ d = ⟨c.index + 1, some x, rest⟩ := by
  obtain ⟨index, before, rest⟩ := c
  cases rest with
  | nil => simp [Next, step?]
  | cons x rest => grind [Next, step?]

theorem Next.of (h : c.Next s d) (hc : c.Of t) : d.Of t := by
  obtain ⟨x, rest, hrest, -, rfl⟩ := next_iff.mp h
  obtain ⟨u, v, rfl, rfl⟩ := hc
  obtain rfl : v = x :: rest := hrest
  exact ⟨u ++ [x], rest, by simp, by simp⟩

theorem Next.index (h : c.Next s d) : d.index = c.index + 1 := by
  obtain ⟨x, rest, -, -, rfl⟩ := next_iff.mp h
  rfl

theorem index_le_of_skips (h : ReflTransGen (Next s) c d) : c.index ≤ d.index := by
  induction h with
  | refl => exact Nat.le_refl _
  | tail _ hnext ih =>
    rw [hnext.index]
    omega

theorem skips_nil_iff {index : Nat} {before : Option Char} :
    ReflTransGen (Next s) ⟨index, before, []⟩ d ↔ d = ⟨index, before, []⟩ := by
  rw [ReflTransGen.cases_head_iff, eq_comm]
  refine or_iff_left ?_
  rintro ⟨e, hnext, -⟩
  cases hnext

theorem skips_cons_iff {index : Nat} {before : Option Char} {x : Char} {rest : List Char} :
    ReflTransGen (Next s) ⟨index, before, x :: rest⟩ d ↔ d = ⟨index, before, x :: rest⟩ ∨
      s.has x = true ∧ ReflTransGen (Next s) ⟨index + 1, some x, rest⟩ d := by
  rw [ReflTransGen.cases_head_iff, eq_comm]
  refine or_congr_right ⟨?_, fun ⟨hx, h⟩ => ⟨_, next_iff.mpr ⟨x, rest, rfl, hx, rfl⟩, h⟩⟩
  rintro ⟨e, hnext, h⟩
  obtain ⟨x', rest', heq, hx, rfl⟩ := next_iff.mp hnext
  cases heq
  exact ⟨hx, h⟩

theorem of_skips (h : ReflTransGen (Next s) c d) (hc : c.Of t) : d.Of t := by
  induction h with
  | refl => exact hc
  | tail _ hnext ih => exact hnext.of ih

/-- One skips from the start of a text to all of its places. -/
theorem skips_all_iff : ReflTransGen (Next .all) (start t) c ↔ c.Of t := by
  refine ⟨fun h => of_skips h (of_start t), ?_⟩
  rintro ⟨u, v, rfl, rfl⟩
  induction u using List.reverseRecOn generalizing v with
  | nil => exact .refl
  | append_singleton u x ih =>
    rw [List.append_assoc]
    exact (ih (x :: v)).tail (next_iff.mpr ⟨x, v, rfl, rfl, by simp⟩)

/-- Skipping goes past every place of the text on its way. -/
theorem skips_of_between (h : ReflTransGen (Next s) c d) (hc : c.Of t) (he : e.Of t)
    (hce : c.index ≤ e.index) (hed : e.index ≤ d.index) : ReflTransGen (Next s) e d := by
  induction h using ReflTransGen.head_induction_on with
  | refl => rw [he.eq_of_index hc (by omega)]
  | head hnext hrest ih =>
    rcases Nat.eq_or_lt_of_le hce with heq | hlt
    · rw [← hc.eq_of_index he heq]
      exact .head hnext hrest
    · exact ih (hnext.of hc) (by rw [hnext.index]; exact hlt)

end Cursor

/-! ### Places in the order of the text -/

/-- Places of a text in their order. -/
structure Placed (t : List Char) (cs : List Cursor) : Prop where
  of : ∀ c ∈ cs, c.Of t
  ordered : cs.Pairwise fun c d => c.index < d.index

variable {t : List Char} {s : CharSet} {c d : Cursor} {acc as bs cs : List Cursor}

theorem Placed.nodup (h : Placed t cs) : cs.Nodup :=
  h.ordered.imp fun hlt => ne_of_apply_ne Cursor.index (Nat.ne_of_lt hlt)

theorem Placed.of_sublist (h : Placed t cs) (hsub : as.Sublist cs) : Placed t as :=
  ⟨fun c hc => h.of c (hsub.subset hc), h.ordered.sublist hsub⟩

/-- There are no more places than characters behind the first, and one. -/
theorem Placed.length_le (h : Placed t cs) {first : Nat} (hfirst : first ≤ t.length + 1)
    (hle : ∀ c ∈ cs, first ≤ c.index) : cs.length + first ≤ t.length + 1 := by
  induction cs generalizing first with
  | nil => simpa using hfirst
  | cons c cs ih =>
    obtain ⟨hlt, hordered⟩ := List.pairwise_cons.mp h.ordered
    have hc := (h.of c List.mem_cons_self).index_le
    have hfc := hle c List.mem_cons_self
    have hrest : cs.length + (first + 1) ≤ t.length + 1 :=
      ih ⟨fun d hd => h.of d (List.mem_cons_of_mem _ hd), hordered⟩ (by omega) fun d hd => by
        have := hlt d hd
        omega
    rw [List.length_cons]
    omega

/-- How far the places can still go from the first of them. -/
theorem Placed.exists_first (h : Placed t cs) : ∃ first ≤ t.length + 1, (∀ c ∈ cs, first ≤ c.index) ∧
    t.length + 1 < first + cs.length + ((cs.head?.map (·.rest.length)).getD 0 + 1) := by
  cases cs with
  | nil => exact ⟨t.length + 1, Nat.le_refl _, nofun, by simp⟩
  | cons c cs =>
    have hc := h.of c List.mem_cons_self
    refine ⟨c.index, Nat.le_succ_of_le hc.index_le, fun d hd => ?_, ?_⟩
    · rcases List.mem_cons.mp hd with rfl | hd
      · exact Nat.le_refl _
      · exact Nat.le_of_lt (List.rel_of_pairwise_cons h.ordered hd)
    · obtain ⟨u, v, rfl, rfl⟩ := hc
      simp only [List.length_append, List.length_cons, List.head?_cons, Option.map_some,
        Option.getD_some]
      omega

namespace Pattern

theorem mem_mergeOnto (h : ∀ a ∈ as, ∀ b ∈ bs, a.index = b.index → a = b) :
    d ∈ mergeOnto acc as bs ↔ d ∈ acc ∨ d ∈ as ∨ d ∈ bs := by
  fun_induction mergeOnto acc as bs <;> grind

theorem mem_merge (ha : Placed t as) (hb : Placed t bs) : d ∈ merge as bs ↔ d ∈ as ∨ d ∈ bs := by
  rw [merge, List.mem_reverse,
    mem_mergeOnto fun a ha' b hb' => (ha.of a ha').eq_of_index (hb.of b hb')]
  simp

theorem descending_mergeOnto (hacc : acc.Pairwise fun c d => d.index < c.index)
    (ha : as.Pairwise fun c d => c.index < d.index) (hb : bs.Pairwise fun c d => c.index < d.index)
    (haccA : ∀ c ∈ acc, ∀ a ∈ as, c.index < a.index)
    (haccB : ∀ c ∈ acc, ∀ b ∈ bs, c.index < b.index) :
    (mergeOnto acc as bs).Pairwise fun c d => d.index < c.index := by
  fun_induction mergeOnto acc as bs <;> grind [List.pairwise_cons]

theorem placed_merge (ha : Placed t as) (hb : Placed t bs) : Placed t (merge as bs) where
  of c hc := ((mem_merge ha hb).mp hc).elim (ha.of c) (hb.of c)
  ordered := List.pairwise_reverse.mpr
    (descending_mergeOnto .nil ha.ordered hb.ordered (by simp) (by simp))

theorem mem_minusOnto (h : ∀ a ∈ as, ∀ b ∈ bs, a.index = b.index → a = b)
    (ha : as.Pairwise fun c d => c.index < d.index) (hb : bs.Pairwise fun c d => c.index < d.index) :
    d ∈ minusOnto acc as bs ↔ d ∈ acc ∨ d ∈ as ∧ d ∉ bs := by
  fun_induction minusOnto acc as bs <;> grind [List.pairwise_cons]

theorem mem_minus (ha : Placed t as) (hb : Placed t bs) : d ∈ minus as bs ↔ d ∈ as ∧ d ∉ bs := by
  rw [minus, List.mem_reverse, mem_minusOnto
    (fun a ha' b hb' => (ha.of a ha').eq_of_index (hb.of b hb')) ha.ordered hb.ordered]
  simp

theorem minusOnto_sublist (acc as bs : List Cursor) :
    (minusOnto acc as bs).Sublist (as.reverse ++ acc) := by
  fun_induction minusOnto acc as bs <;> grind

theorem placed_minus (ha : Placed t as) : Placed t (minus as bs) :=
  ha.of_sublist (by simpa [minus] using (minusOnto_sublist [] as bs).reverse)

/-! ### Runs of characters -/

theorem mem_runOnto_iff {limit : Nat} {rest : List Char} {index : Nat} {before : Option Char} :
    d ∈ Cursor.runOnto s limit acc index before rest ↔ d ∈ acc ∨
      ReflTransGen (Cursor.Next s) ⟨index, before, rest⟩ d ∧ (d.index = index ∨ d.index < limit) := by
  induction rest generalizing acc index before with
  | nil =>
    rw [Cursor.runOnto, List.mem_cons, Cursor.skips_nil_iff]
    grind
  | cons x rest ih =>
    have hfar (h : ReflTransGen (Cursor.Next s) ⟨index + 1, some x, rest⟩ d) : index + 1 ≤ d.index :=
      Cursor.index_le_of_skips h
    rw [Cursor.runOnto, Cursor.skips_cons_iff]
    split
    · next hgo =>
      rw [ih, List.mem_cons]
      grind
    · next hstop =>
      rw [List.mem_cons]
      grind

theorem descending_runOnto {limit : Nat} {rest : List Char} {index : Nat} {before : Option Char}
    (hacc : acc.Pairwise fun c d => d.index < c.index) (hlt : ∀ c ∈ acc, c.index < index) :
    (Cursor.runOnto s limit acc index before rest).Pairwise fun c d => d.index < c.index := by
  induction rest generalizing acc index before with
  | nil => exact List.pairwise_cons.mpr ⟨hlt, hacc⟩
  | cons x rest ih =>
    have hcons : (⟨index, before, x :: rest⟩ :: acc).Pairwise fun c d => d.index < c.index :=
      List.pairwise_cons.mpr ⟨hlt, hacc⟩
    rw [Cursor.runOnto]
    split
    · refine ih hcons fun c hc => ?_
      rcases List.mem_cons.mp hc with rfl | hc
      · exact Nat.lt_succ_self index
      · exact Nat.lt_succ_of_lt (hlt c hc)
    · exact hcons

theorem mem_run_iff (hc : c.Of t) : d ∈ c.run s ↔ ReflTransGen (Cursor.Next s) c d := by
  rw [Cursor.run, mem_runOnto_iff]
  refine ⟨fun h => ?_, fun h => .inr ⟨h, .inr ?_⟩⟩
  · obtain hnil | ⟨h, -⟩ := h
    · cases hnil
    · exact h
  · have hd := (Cursor.of_skips h hc).index_le
    obtain ⟨u, v, rfl, rfl⟩ := hc
    rw [List.length_append] at hd
    exact Nat.lt_succ_of_le hd

theorem mem_runsOnto (h : Placed t cs) :
    d ∈ runsOnto s acc cs ↔ d ∈ acc ∨ ∃ c ∈ cs, ReflTransGen (Cursor.Next s) c d := by
  fun_induction runsOnto s acc cs with
  | case1 => simp
  | case2 acc c =>
    rw [List.mem_append, mem_run_iff (h.of c List.mem_cons_self), or_comm]
    simp
  | case3 acc c e cs ih =>
    have htail : Placed t (e :: cs) := h.of_sublist (List.sublist_cons_self _ _)
    have hc := h.of c List.mem_cons_self
    have he := htail.of e List.mem_cons_self
    have hce : c.index < e.index := List.rel_of_pairwise_cons h.ordered List.mem_cons_self
    rw [ih htail, mem_runOnto_iff, List.exists_mem_cons_iff _ c, or_assoc]
    refine or_congr_right ⟨?_, ?_⟩
    · rintro (⟨hskips, -⟩ | hlater)
      · exact .inl hskips
      · exact .inr hlater
    · -- what lies behind the next place is reached from there as well
      rintro (hskips | hlater)
      · by_cases hd : d.index < e.index
        · exact .inl ⟨hskips, .inr hd⟩
        · have hlater := Cursor.skips_of_between hskips hc he (by omega) (by omega)
          exact .inr ⟨e, List.mem_cons_self, hlater⟩
      · exact .inr hlater

theorem descending_runsOnto (h : cs.Pairwise fun c d => c.index < d.index)
    (hacc : acc.Pairwise fun c d => d.index < c.index)
    (hlt : ∀ a ∈ acc, ∀ c ∈ cs, a.index < c.index) :
    (runsOnto s acc cs).Pairwise fun c d => d.index < c.index := by
  fun_induction runsOnto s acc cs with
  | case1 => exact hacc
  | case2 acc c =>
    refine List.pairwise_append.mpr ⟨descending_runOnto .nil nofun, hacc, fun d hd a ha => ?_⟩
    obtain hnil | ⟨hskips, -⟩ := mem_runOnto_iff.mp hd
    · cases hnil
    · exact Nat.lt_of_lt_of_le (hlt a ha c List.mem_cons_self) (Cursor.index_le_of_skips hskips)
  | case3 acc c e cs ih =>
    obtain ⟨hfirst, hrest⟩ := List.pairwise_cons.mp h
    refine ih hrest (descending_runOnto hacc fun a ha => hlt a ha c List.mem_cons_self) ?_
    intro a ha f hf
    have hcf := hfirst f hf
    have hef : e.index ≤ f.index := by
      rcases List.mem_cons.mp hf with rfl | hf
      · exact Nat.le_refl _
      · exact Nat.le_of_lt (List.rel_of_pairwise_cons hrest hf)
    obtain ha | ⟨-, heq | hlt'⟩ := mem_runOnto_iff.mp ha
    · exact hlt a ha f (List.mem_cons_of_mem _ hf)
    · omega
    · omega

theorem mem_runs (h : Placed t cs) :
    d ∈ runs s cs ↔ ∃ c ∈ cs, ReflTransGen (Cursor.Next s) c d := by
  rw [runs, List.mem_reverse, mem_runsOnto h]
  simp

theorem placed_runs (h : Placed t cs) : Placed t (runs s cs) where
  of d hd := by
    obtain ⟨c, hc, hskips⟩ := (mem_runs h).mp hd
    exact Cursor.of_skips hskips (h.of c hc)
  ordered := List.pairwise_reverse.mpr (descending_runsOnto h.ordered .nil nofun)

/-! ### Repeated steps -/

section Closure

variable {step : List Cursor → List Cursor} {R : Cursor → Cursor → Prop} {first : Nat}
  {seen fresh : List Cursor}

/-- Whether a function on sets of places takes them along a relation that never goes back. -/
structure Follows (t : List Char) (step : List Cursor → List Cursor) (R : Cursor → Cursor → Prop) :
    Prop where
  placed : ∀ {cs}, Placed t cs → Placed t (step cs)
  mem : ∀ {cs d}, Placed t cs → (d ∈ step cs ↔ ∃ c ∈ cs, R c d)
  forwards : ∀ {c d}, R c d → c.index ≤ d.index

/-- Places that have been seen, of which all but the fresh ones have been gone on from. -/
structure Explored (t : List Char) (R : Cursor → Cursor → Prop) (first : Nat)
    (seen fresh : List Cursor) : Prop where
  placed : Placed t seen
  placedFresh : Placed t fresh
  sub : ∀ c ∈ fresh, c ∈ seen
  done : ∀ c ∈ seen, c ∉ fresh → ∀ d, R c d → d ∈ seen
  le : ∀ c ∈ seen, first ≤ c.index

namespace Explored

/-- What the next step finds. -/
theorem mem_found (hstep : Follows t step R) (h : Explored t R first seen fresh) :
    d ∈ minus (step fresh) seen ↔ (∃ c ∈ fresh, R c d) ∧ d ∉ seen := by
  rw [mem_minus (hstep.placed h.placedFresh) h.placed, hstep.mem h.placedFresh]

theorem placed_found (hstep : Follows t step R) (h : Explored t R first seen fresh) :
    Placed t (minus (step fresh) seen) := placed_minus (hstep.placed h.placedFresh)

theorem mem_merge_found (hstep : Follows t step R) (h : Explored t R first seen fresh) :
    d ∈ merge seen (minus (step fresh) seen) ↔ d ∈ seen ∨ d ∈ minus (step fresh) seen :=
  mem_merge h.placed (h.placed_found hstep)

/-- One step from a place that has been seen leads to another, or is found. -/
theorem seen_or_found (hstep : Follows t step R) (h : Explored t R first seen fresh) (hc : c ∈ seen)
    (hcd : R c d) : d ∈ seen ∨ d ∈ minus (step fresh) seen := by
  by_cases hfresh : c ∈ fresh
  · rw [h.mem_found hstep, or_iff_not_imp_left]
    exact fun hd => ⟨⟨c, hfresh, hcd⟩, hd⟩
  · exact .inl (h.done c hc hfresh d hcd)

theorem next (hstep : Follows t step R) (h : Explored t R first seen fresh) :
    Explored t R first (merge seen (minus (step fresh) seen)) (minus (step fresh) seen) where
  placed := placed_merge h.placed (h.placed_found hstep)
  placedFresh := h.placed_found hstep
  sub _ hc := (h.mem_merge_found hstep).mpr (.inr hc)
  done _ hc hnew _ hcd := (h.mem_merge_found hstep).mpr
    (h.seen_or_found hstep (((h.mem_merge_found hstep).mp hc).resolve_right hnew) hcd)
  le c hc := by
    obtain hc | hc := (h.mem_merge_found hstep).mp hc
    · exact h.le c hc
    · obtain ⟨⟨b, hb, hbc⟩, -⟩ := (h.mem_found hstep).mp hc
      exact Nat.le_trans (h.le b (h.sub b hb)) (hstep.forwards hbc)

/-- A step that finds something leaves less to be found. -/
theorem length_lt (hstep : Follows t step R) (h : Explored t R first seen fresh)
    (hd : d ∈ minus (step fresh) seen) :
    seen.length < (merge seen (minus (step fresh) seen)).length := by
  have hnodup : (d :: seen).Nodup :=
    List.nodup_cons.mpr ⟨((h.mem_found hstep).mp hd).2, h.placed.nodup⟩
  have hsub : d :: seen ⊆ merge seen (minus (step fresh) seen) := by
    refine List.cons_subset.mpr ⟨?_, fun c hc => ?_⟩
    · exact (h.mem_merge_found hstep).mpr (.inr hd)
    · exact (h.mem_merge_found hstep).mpr (.inl hc)
  exact (hnodup.subperm hsub).length_le

/-- From the places after a step leads what leads from those before. -/
theorem next_leads_iff (hstep : Follows t step R) (h : Explored t R first seen fresh) :
    (∃ c ∈ merge seen (minus (step fresh) seen), ReflTransGen R c d) ↔
      ∃ c ∈ seen, ReflTransGen R c d := by
  refine ⟨?_, fun ⟨c, hc, hcd⟩ => ⟨c, (h.mem_merge_found hstep).mpr (.inl hc), hcd⟩⟩
  rintro ⟨c, hc, hcd⟩
  obtain hc | hc := (h.mem_merge_found hstep).mp hc
  · exact ⟨c, hc, hcd⟩
  · obtain ⟨⟨b, hb, hbc⟩, -⟩ := (h.mem_found hstep).mp hc
    exact ⟨b, h.sub b hb, hcd.head hbc⟩

end Explored

/-- With a round for every place that can still be found, repeated steps find all that the relation
leads to. -/
theorem closure_follows (hstep : Follows t step R) {fuel : Nat} (h : Explored t R first seen fresh)
    (hfirst : first ≤ t.length + 1) (hfuel : t.length + 1 < first + seen.length + fuel) :
    Placed t (closure step fuel seen fresh) ∧
      ∀ d, d ∈ closure step fuel seen fresh ↔ ∃ c ∈ seen, ReflTransGen R c d := by
  induction fuel generalizing seen fresh with
  | zero =>
    have := h.placed.length_le hfirst h.le
    omega
  | succ fuel ih =>
    rw [closure]
    split
    · next hnone =>
      refine ⟨h.placed, fun d => ⟨fun hd => ⟨d, hd, .refl⟩, ?_⟩⟩
      rintro ⟨c, hc, hcd⟩
      induction hcd with
      | refl => exact hc
      | tail _ hlast hmid =>
        refine (h.seen_or_found hstep hmid hlast).resolve_right ?_
        rw [List.isEmpty_iff.mp hnone]
        exact List.not_mem_nil
    · next hsome =>
      obtain ⟨d, hd⟩ := List.isEmpty_eq_false_iff_exists_mem.mp (Bool.eq_false_iff.mpr hsome)
      have hlonger := h.length_lt hstep hd
      obtain ⟨hplaced, hmem⟩ := ih (h.next hstep) (by omega)
      exact ⟨hplaced, fun d => (hmem d).trans (h.next_leads_iff hstep)⟩

end Closure

/-! ### The relation of a pattern -/

/-- Whether a match that starts at one place can end at another. -/
def Leads : Pattern → Cursor → Cursor → Prop
  | empty, c, d => c = d
  | char s, c, d => c.Next s d
  | place p, c, d => c = d ∧ p.holds c = true
  | seq a b, c, d => ∃ e, a.Leads c e ∧ b.Leads e d
  | alt a b, c, d => a.Leads c d ∨ b.Leads c d
  | many s, c, d => ReflTransGen (Cursor.Next s) c d
  | star a, c, d => ReflTransGen a.Leads c d

theorem Leads.index_le {p : Pattern} (h : p.Leads c d) : c.index ≤ d.index := by
  induction p generalizing c d with
  | empty => exact Nat.le_of_eq (congrArg Cursor.index h)
  | char s => rw [Cursor.Next.index h]; exact Nat.le_succ _
  | place p => exact Nat.le_of_eq (congrArg Cursor.index h.1)
  | seq a b iha ihb =>
    obtain ⟨e, ha, hb⟩ := h
    exact Nat.le_trans (iha ha) (ihb hb)
  | alt a b iha ihb => exact h.elim iha ihb
  | many s => exact Cursor.index_le_of_skips h
  | star a ih =>
    induction h with
    | refl => exact Nat.le_refl _
    | tail _ hlast hle => exact Nat.le_trans hle (ih hlast)

theorem Leads.of {p : Pattern} (h : p.Leads c d) (hc : c.Of t) : d.Of t := by
  induction p generalizing c d with
  | empty => exact h ▸ hc
  | char s => exact Cursor.Next.of h hc
  | place p => exact h.1 ▸ hc
  | seq a b iha ihb =>
    obtain ⟨e, ha, hb⟩ := h
    exact ihb hb (iha ha hc)
  | alt a b iha ihb => exact h.elim (iha · hc) (ihb · hc)
  | many s => exact Cursor.of_skips h hc
  | star a ih =>
    induction h with
    | refl => exact hc
    | tail _ hlast hmid => exact ih hlast hmid

theorem reach_nil (p : Pattern) : p.reach [] = [] := by
  induction p <;>
    simp_all [reach, runs, runsOnto, merge, mergeOnto, closure, minus, minusOnto]

theorem reach_seq (a b : Pattern) (cs : List Cursor) :
    (seq a b).reach cs = b.reach (a.reach cs) := by
  rw [reach]
  split
  · next hnone => rw [hnone, reach_nil]
  · rfl

/-- The search goes where the relation leads. -/
theorem reach_follows : ∀ p : Pattern, Follows t p.reach p.Leads
  | empty => ⟨id, by simp [reach, Leads], Leads.index_le⟩
  | char s => by
    have hmem {cs : List Cursor} {d : Cursor} :
        d ∈ (char s).reach cs ↔ ∃ c ∈ cs, (char s).Leads c d := List.mem_filterMap
    refine ⟨fun {cs} h => ⟨fun d hd => ?_, ?_⟩, fun _ => hmem, Leads.index_le⟩
    · obtain ⟨c, hc, hcd⟩ := hmem.mp hd
      exact hcd.of (h.of c hc)
    · refine h.ordered.filterMap _ fun c d hlt c' hc d' hd => ?_
      rw [Cursor.Next.index hc, Cursor.Next.index hd]
      omega
  | place p => ⟨fun h => h.of_sublist List.filter_sublist,
      by simp [reach, Leads], Leads.index_le⟩
  | seq a b => by
    have ha := reach_follows a
    have hb := reach_follows b
    refine ⟨fun h => ?_, fun h => ?_, Leads.index_le⟩
    · rw [reach_seq]
      exact hb.placed (ha.placed h)
    · rw [reach_seq, hb.mem (ha.placed h)]
      simp only [ha.mem h, Leads]
      grind
  | alt a b => by
    have ha := reach_follows a
    have hb := reach_follows b
    refine ⟨fun h => placed_merge (ha.placed h) (hb.placed h), fun h => ?_, Leads.index_le⟩
    rw [reach, mem_merge (ha.placed h) (hb.placed h), ha.mem h, hb.mem h]
    simp only [Leads, and_or_left, exists_or]
  | many s => ⟨placed_runs, mem_runs, Leads.index_le⟩
  | star a => by
    have hstar {cs : List Cursor} (h : Placed t cs) : Placed t ((star a).reach cs) ∧
        ∀ d, d ∈ (star a).reach cs ↔ ∃ c ∈ cs, (star a).Leads c d := by
      obtain ⟨first, hfirst, hle, hfuel⟩ := h.exists_first
      exact closure_follows (reach_follows a) ⟨h, h, fun _ => id, fun c hc hn => absurd hc hn, hle⟩
        hfirst hfuel
    exact ⟨fun h => (hstar h).1, fun h => (hstar h).2 _, Leads.index_le⟩

theorem leads_anyOf {ps : List Pattern} : (anyOf ps).Leads c d ↔ ∃ p ∈ ps, p.Leads c d := by
  induction ps with
  | nil =>
    refine iff_of_false (fun h => ?_) nofun
    obtain ⟨x, rest, -, hx, -⟩ := Cursor.next_iff.mp h
    cases hx
  | cons p ps ih =>
    cases ps with
    | nil => simp [anyOf]
    | cons q ps => exact (or_congr_right ih).trans (List.exists_mem_cons_iff (Leads · c d) p _).symm

theorem leads_seqs_cons {p : Pattern} {ps : List Pattern} :
    (seqs (p :: ps)).Leads c d ↔ ∃ e, p.Leads c e ∧ (seqs ps).Leads e d := by
  cases ps with
  | nil => simp [seqs, Leads]
  | cons q ps => rfl

theorem leads_seqs_append {ps qs : List Pattern} :
    (seqs (ps ++ qs)).Leads c d ↔ ∃ e, (seqs ps).Leads c e ∧ (seqs qs).Leads e d := by
  induction ps generalizing c with
  | nil => simp [seqs, Leads]
  | cons p ps ih =>
    rw [List.cons_append, leads_seqs_cons]
    simp only [ih, leads_seqs_cons]
    grind

/-- A text in any case is not found in front of a character that its first does not fold to. -/
theorem not_leads_folded {s : String} {y : Char}
    (hs : s.toList.head?.any (fun x => !(CharSet.ignoringCase (.one x)).has y) = true)
    (hc : c.rest.head? = some y) : ¬ (folded s).Leads c d := by
  rw [folded]
  cases hchars : s.toList with
  | nil => simp [hchars] at hs
  | cons x xs =>
    have hy : (CharSet.ignoringCase (.one x)).has y = false := by simpa [hchars] using hs
    have hnext (e : Cursor) : ¬ c.Next (.ignoringCase (.one x)) e := by
      intro h
      obtain ⟨z, rest, hrest, hz, -⟩ := Cursor.next_iff.mp h
      obtain rfl : z = y := by simpa [hrest] using hc
      rw [hy] at hz
      cases hz
    cases xs with
    | nil => exact hnext d
    | cons x' xs =>
      rintro ⟨e, he, -⟩
      exact hnext e he

/-! ### Matches in a text -/

theorem placed_onwards (t : List Char) : Placed t (Cursor.start t).onwards where
  of _ hc := Cursor.of_skips ((mem_run_iff (Cursor.of_start t)).mp (List.mem_reverse.mp hc))
    (Cursor.of_start t)
  ordered := List.pairwise_reverse.mpr (descending_runOnto .nil nofun)

theorem mem_onwards_start : c ∈ (Cursor.start t).onwards ↔ c.Of t := by
  rw [Cursor.onwards, List.mem_reverse, mem_run_iff (Cursor.of_start t), Cursor.skips_all_iff]

/-- A text holds a match if and only if the pattern leads on from one of its places. -/
theorem isIn_iff {p : Pattern} : p.isIn t = true ↔ ∃ c d, c.Of t ∧ p.Leads c d := by
  rw [isIn, Bool.not_eq_true', List.isEmpty_eq_false_iff_exists_mem]
  simp only [(reach_follows p).mem (placed_onwards t), mem_onwards_start]
  exact exists_comm.trans (by simp)

/-- Where a text is found in any case, so is each part of it. -/
theorem isIn_folded_of_part {r s s' : String} (h : (folded (r ++ s ++ s')).isIn t = true) :
    (folded s).isIn t = true := by
  obtain ⟨c, d, hc, hcd⟩ := isIn_iff.mp h
  rw [folded, String.toList_append, String.toList_append, List.map_append, List.map_append,
    leads_seqs_append] at hcd
  obtain ⟨e, hce, -⟩ := hcd
  obtain ⟨b, hcb, hbe⟩ := leads_seqs_append.mp hce
  exact isIn_iff.mpr ⟨b, e, hcb.of hc, hbe⟩

theorem isIn_alt {a b : Pattern} : (alt a b).isIn t = true ↔ a.isIn t = true ∨ b.isIn t = true := by
  simp only [isIn_iff, Leads, and_or_left, exists_or]

theorem isIn_anyOf {ps : List Pattern} :
    (anyOf ps).isIn t = true ↔ ∃ p ∈ ps, p.isIn t = true := by
  simp only [isIn_iff, leads_anyOf]
  grind

/-- What is found is found in the first of two patterns that follow one another. -/
theorem isIn_of_seq {a b : Pattern} (h : (seq a b).isIn t = true) : a.isIn t = true := by
  obtain ⟨c, d, hc, e, hce, -⟩ := isIn_iff.mp h
  exact isIn_iff.mpr ⟨c, e, hc, hce⟩

end Pattern

end SuiteBench
