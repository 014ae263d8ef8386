import SuiteBench.Proofs.Pattern.Trimming
import SuiteBench.Proofs.Text.Parts

/-!
# Proofs.Pattern.Searching — a search finds the first place that the pattern leads on from

`Pattern.ends` lists just the places that the relation of a pattern leads to, in the order of
preference.  So a search finds something where the text holds a match, and what it finds starts at the
first place of the text that the pattern leads on from.
-/

namespace SuiteBench

open Relation (ReflTransGen)

/-! ### Places of a text -/

namespace Cursor

variable {t v w : List Char} {c d : Cursor}

theorem Of.suffix (h : c.Of t) : c.rest <:+ t := by
  obtain ⟨u, v, rfl, rfl⟩ := h
  exact List.suffix_append u v

/-- A text has a place in front of each of its ends. -/
theorem exists_of_suffix (h : v <:+ t) : ∃ c : Cursor, c.Of t ∧ c.rest = v := by
  obtain ⟨u, rfl⟩ := h
  exact ⟨⟨u.length, u.getLast?, v⟩, ⟨u, v, rfl, rfl⟩, rfl⟩

theorem Of.index_add (h : c.Of t) : c.index + c.rest.length = t.length := by
  obtain ⟨u, v, rfl, rfl⟩ := h
  exact List.length_append.symm

theorem Of.suffix_of_index_le (hc : c.Of t) (hd : d.Of t) (h : c.index ≤ d.index) : d.rest <:+ c.rest := by
  have hlc := hc.index_add
  have hld := hd.index_add
  exact List.suffix_of_suffix_length_le hd.suffix hc.suffix (by omega)

/-- Behind a text stands its last character. -/
theorem Takes.before (h : c.Takes w d) (hc : c.Of t) (hd : d.Of t) :
    d.before = w.getLast?.or c.before := by
  obtain ⟨u, v, rfl, rfl⟩ := hc
  obtain ⟨u', v', htext, rfl⟩ := hd
  have hrest : v = w ++ v' := h.rest
  have hlength : u'.length = u.length + w.length := h.index
  rw [hrest, ← List.append_assoc] at htext
  obtain ⟨rfl, -⟩ := List.append_inj htext (by rw [List.length_append, hlength])
  exact List.getLast?_append

end Cursor

namespace Pattern

variable {p : Pattern} {t v : List Char} {c d e : Cursor} {R : Cursor → Cursor → Prop}

/-! ### Where matches end -/

/-- No place of a text is lost with the copies of places. -/
theorem mem_distinct {cs : List Cursor} (h : ∀ c ∈ cs, c.Of t) : d ∈ distinct cs ↔ d ∈ cs := by
  refine ⟨mem_of_mem_distinct, fun hd => ?_⟩
  induction cs with
  | nil => exact hd
  | cons c cs ih =>
    obtain ⟨hc, hcs⟩ := List.forall_mem_cons.mp h
    rw [distinct, List.foldr_cons]
    rcases List.mem_cons.mp hd with rfl | hd
    · exact List.mem_cons_self
    · by_cases hindex : d.index = c.index
      · rw [(hcs d hd).eq_of_index hc hindex]
        exact List.mem_cons_self
      · exact List.mem_cons_of_mem _ (List.mem_filter.mpr ⟨ih hcs hd, by simpa using hindex⟩)

theorem of_reflTransGen (hof : ∀ {c d}, R c d → c.Of t → d.Of t) (hc : c.Of t)
    (h : ReflTransGen R c d) : d.Of t := by
  induction h with
  | refl => exact hc
  | tail _ hlast hmid => exact hof hlast hmid

/-- Repeated steps that get anywhere get ahead with one of them. -/
theorem eq_or_exists_ahead (hof : ∀ {c d}, R c d → c.Of t → d.Of t)
    (hle : ∀ {c d}, R c d → c.index ≤ d.index) (hc : c.Of t) (h : ReflTransGen R c d) :
    c = d ∨ ∃ e, R c e ∧ c.index < e.index ∧ ReflTransGen R e d := by
  induction h using ReflTransGen.head_induction_on with
  | refl => exact .inl rfl
  | @head c e hce hed ih =>
    rcases Nat.eq_or_lt_of_le (hle hce) with heq | hlt
    · obtain rfl := hc.eq_of_index (hof hce hc) heq
      exact ih hc
    · exact .inr ⟨e, hce, hlt, hed⟩

/-- Steps that are repeated until the text is at its end reach what can be reached. -/
theorem mem_repeatEnds_iff {step : Cursor → List Cursor} (hof : ∀ {c d}, R c d → c.Of t → d.Of t)
    (hle : ∀ {c d}, R c d → c.index ≤ d.index) (hstep : ∀ {c d}, c.Of t → (d ∈ step c ↔ R c d))
    {fuel : Nat} (hc : c.Of t) (hfuel : t.length ≤ c.index + fuel) :
    d ∈ repeatEnds step fuel c ↔ ReflTransGen R c d := by
  induction fuel generalizing c d with
  | zero =>
    rw [repeatEnds, List.mem_singleton]
    refine ⟨fun hd => hd ▸ .refl, fun h => ?_⟩
    rcases eq_or_exists_ahead hof hle hc h with rfl | ⟨e, hce, hlt, -⟩
    · rfl
    · have := (hof hce hc).index_le
      omega
  | succ fuel ih =>
    have hahead : ∀ d, d ∈ ((step c).filter fun e => c.index < e.index).flatMap
        (repeatEnds step fuel) ↔ ∃ e, R c e ∧ c.index < e.index ∧ ReflTransGen R e d := by
      intro d
      rw [List.mem_flatMap]
      refine exists_congr fun e => ?_
      rw [List.mem_filter, hstep hc, decide_eq_true_iff, and_assoc]
      exact and_congr_right fun hce => and_congr_right fun hlt => ih (hof hce hc) (by omega)
    have hall : ∀ d ∈ ((step c).filter fun e => c.index < e.index).flatMap
        (repeatEnds step fuel), d.Of t := by
      intro d hd
      obtain ⟨e, hce, -, hed⟩ := (hahead d).mp hd
      exact of_reflTransGen hof (hof hce hc) hed
    rw [repeatEnds, List.mem_append, mem_distinct hall, List.mem_singleton, hahead]
    constructor
    · rintro (⟨e, hce, -, hed⟩ | rfl)
      · exact .head hce hed
      · exact .refl
    · intro h
      rcases eq_or_exists_ahead hof hle hc h with rfl | hlater
      · exact .inr rfl
      · exact .inl hlater

/-- Matches end just where the relation leads. -/
theorem mem_ends_iff (hc : c.Of t) : d ∈ p.ends c ↔ p.Leads c d := by
  induction p generalizing c d with
  | empty => exact List.mem_singleton.trans eq_comm
  | char s => exact Option.mem_toList
  | place q =>
    rw [ends, Leads]
    by_cases hq : q.holds c = true
    · rw [if_pos hq, List.mem_singleton, and_iff_left hq, eq_comm]
    · simp [hq]
  | seq a b iha ihb =>
    rw [ends, List.mem_flatMap, Leads]
    refine exists_congr fun e => ?_
    rw [iha hc]
    exact and_congr_right fun he => ihb (he.of hc)
  | alt a b iha ihb => rw [ends, List.mem_append, iha hc, ihb hc, Leads]
  | many s => exact mem_run_iff hc
  | star a ih =>
    have hlength := hc.index_add
    exact mem_repeatEnds_iff (fun h => h.of) (fun h => h.index_le) ih hc (by omega)

/-! ### The first match -/

theorem ends_of_findFrom_none {u cs : List Char} (h : p.findFrom u.length u.getLast? cs = none)
    (he : e.Of (u ++ cs)) (hle : u.length ≤ e.index) : p.ends e = [] := by
  induction cs generalizing u with
  | nil =>
    have hend := he.index_le
    rw [List.append_nil] at he hend
    obtain rfl := he.eq_of_index ⟨u, [], (List.append_nil u).symm, rfl⟩ (by dsimp only; omega)
    rw [findFrom, Option.map_eq_none_iff] at h
    exact List.head?_eq_none_iff.mp h
  | cons x cs ih =>
    rw [findFrom] at h
    split at h
    · cases h
    · next hhere =>
      rcases Nat.eq_or_lt_of_le hle with heq | hlt
      · obtain rfl := he.eq_of_index ⟨u, x :: cs, rfl, rfl⟩ heq.symm
        exact List.head?_eq_none_iff.mp hhere
      · have hnext : p.findFrom (u ++ [x]).length (u ++ [x]).getLast? cs = none := by
          rwa [List.length_append, List.getLast?_concat]
        exact ih hnext (by rwa [List.append_assoc]) (by rwa [List.length_append])

theorem ends_of_findFrom_some {u cs : List Char}
    (h : p.findFrom u.length u.getLast? cs = some (c, d)) :
    c.Of (u ++ cs) ∧
      ∀ e, e.Of (u ++ cs) → u.length ≤ e.index → e.index < c.index → p.ends e = [] := by
  induction cs generalizing u with
  | nil =>
    rw [findFrom, Option.map_eq_some_iff] at h
    obtain ⟨d', -, heq⟩ := h
    cases heq
    refine ⟨⟨u, [], rfl, rfl⟩, fun e _ hle hlt => ?_⟩
    dsimp only at hlt
    omega
  | cons x cs ih =>
    rw [findFrom] at h
    split at h
    · cases h
      refine ⟨⟨u, x :: cs, rfl, rfl⟩, fun e _ hle hlt => ?_⟩
      dsimp only at hlt
      omega
    · next hhere =>
      have hnext : p.findFrom (u ++ [x]).length (u ++ [x]).getLast? cs = some (c, d) := by
        rwa [List.length_append, List.getLast?_concat]
      obtain ⟨hc, hfirst⟩ := ih hnext
      rw [List.append_assoc, List.singleton_append] at hc hfirst
      refine ⟨hc, fun e he hle hlt => ?_⟩
      rcases Nat.eq_or_lt_of_le hle with heq | hlater
      · obtain rfl := he.eq_of_index ⟨u, x :: cs, rfl, rfl⟩ heq.symm
        exact List.head?_eq_none_iff.mp hhere
      · exact hfirst e he (by rwa [List.length_append]) hlt

section First

variable {P : List Char → Prop} (hP : ∀ c, c.Of t → ((∃ d, p.Leads c d) ↔ P c.rest))
include hP

/-- A search for what can be told from the text that follows finds the first place of it. -/
theorem first_of_find? (h : p.find? t = some (c, d)) :
    c.Of t ∧ p.Leads c d ∧ Text.First P t c.rest := by
  obtain ⟨hc, hfirst⟩ := ends_of_findFrom_some (u := []) h
  have hcd : p.Leads c d := (mem_ends_iff hc).mp (mem_ends_of_findFrom h)
  refine ⟨hc, hcd, hc.suffix, (hP c hc).mp ⟨d, hcd⟩, fun w hw hPw => ?_⟩
  obtain ⟨e, he, rfl⟩ := Cursor.exists_of_suffix hw
  obtain ⟨f, hef⟩ := (hP e he).mpr hPw
  refine hc.suffix_of_index_le he (Nat.le_of_not_lt fun hlt => ?_)
  have hmem := (mem_ends_iff he).mpr hef
  rw [hfirst e he (Nat.zero_le _) hlt] at hmem
  cases hmem

theorem exists_find?_of_first (hv : Text.First P t v) : ∃ c d, p.find? t = some (c, d) ∧ c.rest = v := by
  cases hfind : p.find? t with
  | none =>
    obtain ⟨e, he, rfl⟩ := Cursor.exists_of_suffix hv.suffix
    obtain ⟨f, hef⟩ := (hP e he).mpr hv.holds
    have hmem := (mem_ends_iff he).mpr hef
    rw [ends_of_findFrom_none (u := []) hfind he (Nat.zero_le _)] at hmem
    cases hmem
  | some found =>
    obtain ⟨c, d⟩ := found
    exact ⟨c, d, rfl, (first_of_find? hP hfind).2.2.unique hv⟩

end First

/-! ### A text in any case -/

/-- A text in any case leads on where what follows begins with a text that folds to the same. -/
theorem exists_leads_folded_iff {s : String} : (∃ d, (folded s).Leads c d) ↔
    ∃ w, w <+: c.rest ∧ w.map Text.foldChar = s.toList.map Text.foldChar := by
  constructor
  · rintro ⟨d, hcd⟩
    obtain ⟨w, hw, htakes⟩ := hcd.spells
    exact ⟨w, ⟨d.rest, htakes.rest.symm⟩, fold_eq_of_spells_folded hw⟩
  · rintro ⟨w, ⟨r, hr⟩, hw⟩
    have hfold : List.Forall₂ (fun x y => Text.foldChar x = Text.foldChar y) w s.toList :=
      List.forall₂_map_left_iff.mp (List.forall₂_map_right_iff.mp (List.forall₂_eq_eq_eq ▸ hw))
    have hchars : List.Forall₂ (fun x s => s.has x = true) w
        (s.toList.map fun c => CharSet.ignoringCase (.one c)) :=
      List.forall₂_map_right_iff.mpr (hfold.imp fun x y hxy => beq_iff_eq.mpr hxy)
    rw [folded_eq]
    obtain ⟨d, hd, -⟩ := exists_leads_chars hchars hr.symm
    exact ⟨d, hd⟩

theorem exists_leads_many {s : CharSet} {w r : List Char} (hw : ∀ x ∈ w, s.has x = true)
    (hc : c.rest = w ++ r) : ∃ d, (many s).Leads c d ∧ d.rest = r := by
  induction w generalizing c with
  | nil => exact ⟨c, .refl, hc⟩
  | cons x w ih =>
    obtain ⟨hx, hw⟩ := List.forall_mem_cons.mp hw
    obtain ⟨d, hd, hrest⟩ := ih (c := ⟨c.index + 1, some x, w ++ r⟩) hw rfl
    exact ⟨d, .head (Cursor.next_iff.mpr ⟨x, w ++ r, hc, hx, rfl⟩) hd, hrest⟩

end Pattern

end SuiteBench
