import Mathlib.Data.Set.Card
import SuiteBench.Proofs.Pattern.Searching

/-!
# Proofs.Pattern.Counting — how many matches a text holds

The search for all matches goes on behind each of them, so a match that begins within another one is
passed over.  Where no match does, there is a match for every place that the pattern leads on from, and a
text has the matches of its parts between characters that the pattern never takes.
-/

namespace SuiteBench

namespace Cursor

variable {t w : List Char} {c d e : Cursor}

theorem finite_setOf_of (t : List Char) : {c : Cursor | c.Of t}.Finite :=
  (List.finite_toSet (start t).onwards).subset fun _ hc => Pattern.mem_onwards_start.mpr hc

/-- A text that is taken is cut by the places within it. -/
theorem Takes.exists_split (h : c.Takes w d) (hc : c.Of t) (he : e.Of t) (hce : c.index ≤ e.index)
    (hed : e.index ≤ d.index) : ∃ v v', w = v ++ v' ∧ c.Takes v e ∧ e.Takes v' d := by
  have hindex := h.index
  have hlen : (w.take (e.index - c.index)).length = e.index - c.index := by
    rw [List.length_take]
    omega
  have hsuffix : e.rest = w.drop (e.index - c.index) ++ d.rest := by
    obtain ⟨front, hfront⟩ := hc.suffix_of_index_le he hce
    have hcount : front.length = e.index - c.index := by
      have hc' := hc.index_add
      have he' := he.index_add
      rw [← hfront, List.length_append] at hc'
      omega
    rw [h.rest] at hfront
    rw [← List.drop_append_of_le_length (by omega), ← hfront, ← hcount, List.drop_left]
  refine ⟨w.take (e.index - c.index), w.drop (e.index - c.index), (List.take_append_drop _ w).symm,
    ⟨by omega, ?_⟩, ⟨?_, hsuffix⟩⟩
  · rw [hsuffix, ← List.append_assoc, List.take_append_drop]
    exact h.rest
  · rw [List.length_drop]
    omega

end Cursor

namespace Pattern

variable {p : Pattern} {t : List Char} {c d : Cursor}

/-- The places of a text that a pattern leads on from. -/
def starts (p : Pattern) (t : List Char) : Set Cursor := {c | c.Of t ∧ ∃ d, p.Leads c d}

theorem finite_starts (p : Pattern) (t : List Char) : (p.starts t).Finite :=
  (Cursor.finite_setOf_of t).subset fun _ hc => hc.1

/-- Whether the matches in a text take some of it each, and none begins within another. -/
structure Apart (p : Pattern) (t : List Char) : Prop where
  ahead : ∀ {c d}, c.Of t → p.Leads c d → c.index < d.index
  apart : ∀ {c d e f}, c.Of t → e.Of t → p.Leads c d → p.Leads e f → c.index < e.index →
    d.index ≤ e.index

theorem index_le_of_findFrom {index : Nat} {before : Option Char} {cs : List Char}
    (h : p.findFrom index before cs = some (c, d)) : index ≤ c.index := by
  induction cs generalizing index before with
  | nil =>
    rw [findFrom, Option.map_eq_some_iff] at h
    obtain ⟨e, -, heq⟩ := h
    cases heq
    exact le_rfl
  | cons x cs ih =>
    rw [findFrom] at h
    split at h
    · cases h
      exact le_rfl
    · exact Nat.le_of_succ_le (ih h)

/-- No place from here on leads on if no match is found from here on. -/
theorem not_leads_of_findFrom_none (hc : c.Of t)
    (h : p.findFrom c.index c.before c.rest = none) {e f : Cursor} (he : e.Of t)
    (hle : c.index ≤ e.index) : ¬ p.Leads e f := by
  obtain ⟨u, v, rfl, rfl⟩ := hc
  intro hef
  have hmem := (mem_ends_iff he).mpr hef
  rw [ends_of_findFrom_none h he hle] at hmem
  cases hmem

/-- The match that is found from here on starts at the first place that leads on. -/
theorem leads_of_findFrom_some {a b : Cursor} (hc : c.Of t)
    (h : p.findFrom c.index c.before c.rest = some (a, b)) :
    a.Of t ∧ c.index ≤ a.index ∧ p.Leads a b ∧
      ∀ e f, e.Of t → c.index ≤ e.index → p.Leads e f → a.index ≤ e.index := by
  obtain ⟨u, v, rfl, rfl⟩ := hc
  obtain ⟨ha, hfirst⟩ := ends_of_findFrom_some h
  refine ⟨ha, index_le_of_findFrom h, (mem_ends_iff ha).mp (mem_ends_of_findFrom h),
    fun e f he hle hef => Nat.le_of_not_lt fun hlt => ?_⟩
  have hmem := (mem_ends_iff he).mpr hef
  rw [hfirst e he hle hlt] at hmem
  cases hmem

theorem length_matchesAux (h : p.Apart t) {fuel : Nat} (hc : c.Of t)
    (hfuel : t.length < c.index + fuel) :
    (p.matchesAux fuel c).length = {e ∈ p.starts t | c.index ≤ e.index}.ncard := by
  induction fuel generalizing c with
  | zero =>
    have := hc.index_le
    omega
  | succ fuel ih =>
    rw [matchesAux]
    cases hfind : p.findFrom c.index c.before c.rest with
    | none =>
      have hnone : {e ∈ p.starts t | c.index ≤ e.index} = ∅ := by
        refine Set.eq_empty_of_forall_notMem ?_
        rintro e ⟨⟨he, f, hef⟩, hle⟩
        exact not_leads_of_findFrom_none hc hfind he hle hef
      rw [hnone, Set.ncard_empty]
      rfl
    | some found =>
      obtain ⟨a, b⟩ := found
      obtain ⟨ha, hca, hab, hfirst⟩ := leads_of_findFrom_some hc hfind
      have hlt : a.index < b.index := h.ahead ha hab
      -- what starts from here on is the match that was found, and what starts behind it
      have hsplit : {e ∈ p.starts t | c.index ≤ e.index} =
          insert a {e ∈ p.starts t | b.index ≤ e.index} := by
        ext e
        rw [Set.mem_insert_iff]
        constructor
        · rintro ⟨⟨he, f, hef⟩, hle⟩
          rcases Nat.eq_or_lt_of_le (hfirst e f he hle hef) with heq | hlater
          · exact .inl (he.eq_of_index ha heq.symm)
          · exact .inr ⟨⟨he, f, hef⟩, h.apart ha he hab hef hlater⟩
        · rintro (rfl | ⟨hmem, hle⟩)
          · exact ⟨⟨ha, b, hab⟩, hca⟩
          · exact ⟨hmem, by omega⟩
      have hnew : a ∉ {e ∈ p.starts t | b.index ≤ e.index} := fun hmem =>
        absurd hmem.2 (Nat.not_le_of_lt hlt)
      have hfinite := (finite_starts p t).subset (Set.sep_subset _ (fun e => b.index ≤ e.index))
      dsimp only
      rw [if_pos (hca.trans_lt hlt), List.length_cons, ih (hab.of ha) (by omega), hsplit,
        Set.ncard_insert_of_notMem hnew hfinite]

/-- Where no match begins within another, each place that the pattern leads on from is counted. -/
theorem count_eq_ncard_starts (h : p.Apart t) : p.count t = (p.starts t).ncard := by
  have hall : {e ∈ p.starts t | (Cursor.start t).index ≤ e.index} = p.starts t :=
    Set.sep_eq_self_iff_mem_true.mpr fun e _ => Nat.zero_le _
  rw [count, allMatches, length_matchesAux h (Cursor.of_start t) (by simp [Cursor.start]), hall]

theorem count_nil (h : p.Apart []) : p.count [] = 0 := by
  have hnone : p.starts [] = ∅ := by
    refine Set.eq_empty_of_forall_notMem ?_
    rintro c ⟨hc, d, hcd⟩
    have hlt := h.ahead hc hcd
    have hle := (hcd.of hc).index_le
    rw [List.length_nil] at hle
    omega
  rw [count_eq_ncard_starts h, hnone, Set.ncard_empty]

/-! ### A text in two parts -/

section Parts

variable {a b : List Char} {x : Char}

theorem injOn_within (front back : List Char) :
    Set.InjOn (Cursor.within front back) (p.starts t) := by
  rintro c ⟨hc, -⟩ d ⟨hd, -⟩ heq
  have hindex : front.length + c.index = front.length + d.index := congrArg Cursor.index heq
  exact hc.eq_of_index hd (Nat.add_left_cancel hindex)

/-- A match does not reach over a character that the pattern never takes. -/
theorem Leads.index_le_of_within (hx : ∀ w, p.Spells w → x ∉ w) (hc : c.Of a)
    (h : p.Leads (c.within [] (x :: b)) d) : d.index ≤ a.length := by
  obtain ⟨w, hw, htakes⟩ := h.spells
  have hindex : d.index = 0 + c.index + w.length := htakes.index
  have hrest : c.rest ++ x :: b = w ++ d.rest := htakes.rest
  have hlength := hc.index_add
  rcases List.append_eq_append_iff.mp hrest with ⟨e, rfl, hb⟩ | ⟨e, hsplit, -⟩
  · cases e with
    | nil =>
      rw [List.append_nil] at hindex
      omega
    | cons y e =>
      obtain ⟨rfl, -⟩ := List.cons.inj hb
      exact absurd (List.mem_append_right _ List.mem_cons_self) (hx _ hw)
  · rw [hsplit, List.length_append] at hlength
    omega

variable (hp : p.places = []) (hx : ∀ w, p.Spells w → x ∉ w)
include hp hx

/-- Every match of a text lies on one side of a character that the pattern never takes. -/
theorem starts_append_cons : p.starts (a ++ x :: b) =
    Cursor.within [] (x :: b) '' p.starts a ∪ Cursor.within (a ++ [x]) [] '' p.starts b := by
  have htext : a ++ x :: b = a ++ [x] ++ b ++ [] := by simp
  ext c
  constructor
  · rintro ⟨hc, d, hcd⟩
    by_cases hside : c.index ≤ a.length
    · have hparts : c.Of ([] ++ a ++ x :: b) := hc
      obtain ⟨c, rfl, hc'⟩ := hparts.of_within (Nat.zero_le _) (by simpa using hside)
      have hd := hcd.index_le_of_within hx hc'
      obtain ⟨d', -, hcd'⟩ := hcd.of_within (by simp [hp]) hc' (by simpa using hd)
      exact .inl ⟨c, ⟨hc', d', hcd'⟩, rfl⟩
    · rw [htext] at hc
      have hle := hc.index_le
      have hd := (hcd.of hc).index_le
      rw [List.append_nil, List.length_append] at hle hd
      obtain ⟨c, rfl, hc'⟩ := hc.of_within
        (by rw [List.length_append, List.length_singleton]; omega) hle
      obtain ⟨d', -, hcd'⟩ := hcd.of_within (by simp [hp]) hc' hd
      exact .inr ⟨c, ⟨hc', d', hcd'⟩, rfl⟩
  · rintro (⟨c, ⟨hc, d, hcd⟩, rfl⟩ | ⟨c, ⟨hc, d, hcd⟩, rfl⟩)
    · have hparts : (c.within [] (x :: b)).Of ([] ++ a ++ x :: b) := hc.within
      exact ⟨hparts, _, hcd.within (by simp [hp]) hc⟩
    · exact ⟨htext ▸ hc.within, _, hcd.within (by simp [hp]) hc⟩

/-- The matches of a text are those on either side of such a character. -/
theorem count_append_cons (h : ∀ t, p.Apart t) : p.count (a ++ x :: b) = p.count a + p.count b := by
  have hdisjoint : Disjoint (Cursor.within [] (x :: b) '' p.starts a)
      (Cursor.within (a ++ [x]) [] '' p.starts b) := by
    rw [Set.disjoint_left]
    rintro _ ⟨c, ⟨hc, -⟩, rfl⟩ ⟨d, -, heq⟩
    have hindex : (a ++ [x]).length + d.index = 0 + c.index := congrArg Cursor.index heq
    have hle := hc.index_le
    rw [List.length_append, List.length_singleton] at hindex
    omega
  rw [count_eq_ncard_starts (h _), starts_append_cons hp hx,
    Set.ncard_union_eq hdisjoint ((finite_starts p a).image _) ((finite_starts p b).image _),
    (injOn_within _ _).ncard_image, (injOn_within _ _).ncard_image,
    count_eq_ncard_starts (h _), count_eq_ncard_starts (h _)]

end Parts

end Pattern

end SuiteBench
