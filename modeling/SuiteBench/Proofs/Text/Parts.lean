import Mathlib.Algebra.BigOperators.Group.List.Basic
import Mathlib.Algebra.Ring.Nat
import Mathlib.Data.List.Infix
import SuiteBench.Text.Lines

/-!
# Proofs.Text.Parts — places, pieces and lines of a text

A place of a text is said by what follows it: places are the ends of a text, and earlier places are
longer ends.

A text is cut into pieces wherever a separator stands, and its lines are the pieces between line feeds,
each without the carriage return that closes it.  What adds up over separators adds up over the pieces, and
over the lines too if carriage returns do not count.
-/

namespace SuiteBench

namespace Text

/-! ### The first place -/

section Places

/-- Whether the first place of a text where `P` holds of what follows is the one in front of `v`. -/
structure First (P : List Char → Prop) (t v : List Char) : Prop where
  suffix : v <:+ t
  holds : P v
  first : ∀ w, w <:+ t → P w → w <:+ v

variable {P : List Char → Prop} {t v w xs ys : List Char} {x : Char}

theorem First.unique (hv : First P t v) (hw : First P t w) : v = w :=
  (hw.first v hv.suffix hv.holds).eq_of_length_le (hv.first w hw.suffix hw.holds).length_le

theorem first_of_holds (h : P t) : First P t t := ⟨List.suffix_rfl, h, fun _ hw _ => hw⟩

theorem first_cons_of_not (h : ¬ P (x :: t)) : First P (x :: t) v ↔ First P t v := by
  have hsuffix : ∀ w, P w → (w <:+ x :: t ↔ w <:+ t) := fun w hw => by
    refine List.suffix_cons_iff.trans (or_iff_right ?_)
    rintro rfl
    exact h hw
  constructor
  · exact fun hv => ⟨(hsuffix v hv.holds).mp hv.suffix, hv.holds,
      fun w hw hP => hv.first w ((hsuffix w hP).mpr hw) hP⟩
  · exact fun hv => ⟨(hsuffix v hv.holds).mpr hv.suffix, hv.holds,
      fun w hw hP => hv.first w ((hsuffix w hP).mp hw) hP⟩

theorem exists_first (hv : v <:+ t) (h : P v) : ∃ w, First P t w := by
  induction t with
  | nil => exact ⟨[], first_of_holds (List.suffix_nil.mp hv ▸ h)⟩
  | cons x t ih =>
    by_cases hx : P (x :: t)
    · exact ⟨_, first_of_holds hx⟩
    · rcases List.suffix_cons_iff.mp hv with rfl | hv
      · exact absurd h hx
      · obtain ⟨w, hw⟩ := ih hv
        exact ⟨w, (first_cons_of_not hx).mpr hw⟩

/-- Where there is no place in one text, the first is in the next one. -/
theorem first_append_of_not (h : ∀ v, v <:+ xs → v ≠ [] → ¬ P (v ++ ys)) :
    First P (xs ++ ys) w ↔ First P ys w := by
  induction xs with
  | nil => rfl
  | cons x xs ih =>
    refine (first_cons_of_not (h _ List.suffix_rfl (List.cons_ne_nil x xs))).trans (ih fun v hv => ?_)
    exact h v (hv.trans (List.suffix_cons x xs))

/-- The first place in one text stays the first, if what follows the text does not count. -/
theorem First.append (hP : ∀ v, v <:+ xs → (P (v ++ ys) ↔ P v)) (h : First P xs v) :
    First P (xs ++ ys) (v ++ ys) := by
  induction xs with
  | nil =>
    obtain rfl := List.suffix_nil.mp h.suffix
    exact first_of_holds ((hP [] List.suffix_rfl).mpr h.holds)
  | cons x xs ih =>
    by_cases hx : P (x :: xs)
    · obtain rfl := h.unique (first_of_holds hx)
      exact first_of_holds ((hP _ List.suffix_rfl).mpr hx)
    · have hfurther := ih (fun v hv => hP v (hv.trans (List.suffix_cons x xs)))
        ((first_cons_of_not hx).mp h)
      exact (first_cons_of_not fun hxys => hx ((hP _ List.suffix_rfl).mp hxys)).mpr hfurther

/-! ### Cutting a text -/

variable {p r : List Char}

/-- A text is whole if a mark does not occur in it. -/
theorem splitAtFirst?_eq_none (hp : p ≠ []) (h : ¬ p <:+: t) : splitAtFirst? p t = none := by
  induction t with
  | nil =>
    cases p with
    | nil => exact absurd rfl hp
    | cons _ _ => rfl
  | cons x t ih =>
    rw [List.infix_cons_iff, not_or] at h
    have hfront : stripFront? p (x :: t) = none := by
      refine Option.eq_none_iff_forall_not_mem.mpr fun r hr => h.1 ?_
      exact ⟨r, (stripFront?_eq_some_iff.mp hr).symm⟩
    rw [splitAtFirst?, hfront, ih h.2, Option.map_none]

/-- A text is cut in front of the first mark, if the mark does not begin in it. -/
theorem splitAtFirst?_append (hp : p ≠ []) (h : ∀ w, w <:+ v → w ≠ [] → ¬ p <+: w ++ (p ++ r)) :
    splitAtFirst? p (v ++ (p ++ r)) = some (v, r) := by
  induction v with
  | nil =>
    have hfront : stripFront? p (p ++ r) = some r := stripFront?_eq_some_iff.mpr rfl
    obtain ⟨x, p, rfl⟩ := List.exists_cons_of_ne_nil hp
    rw [List.nil_append, List.cons_append, splitAtFirst?, ← List.cons_append, hfront]
  | cons x v ih =>
    have hfront : stripFront? p (x :: (v ++ (p ++ r))) = none := by
      refine Option.eq_none_iff_forall_not_mem.mpr fun r' hr => ?_
      exact h _ List.suffix_rfl (List.cons_ne_nil x v) ⟨r', (stripFront?_eq_some_iff.mp hr).symm⟩
    rw [List.cons_append, splitAtFirst?, hfront, ih fun w hw => h w (hw.trans (List.suffix_cons x v))]
    rfl

/-- A mark that occurs neither in a text nor with its last character does not begin in the text. -/
theorem not_prefix_append (h : ¬ p <:+: v) (hx : v.getLast? = some x) (hp : x ∉ p) (hw : w <:+ v)
    (hne : w ≠ []) : ¬ p <+: w ++ r := by
  intro hpre
  rcases List.prefix_or_prefix_of_prefix hpre (List.prefix_append w r) with hpw | hwp
  · exact h (hpw.isInfix.trans hw.isInfix)
  · obtain ⟨front, rfl⟩ := hw
    rw [List.getLast?_append_of_ne_nil _ hne] at hx
    exact hp (hwp.subset (List.mem_of_getLast? hx))

end Places

/-! ### Pieces between separators -/

variable {sep : Char → Bool}

/-- A separator ends the pieces before it. -/
theorem splitOnP_append_sep (cs rest : List Char) {c : Char} (hc : sep c = true) :
    splitOnP sep (cs ++ c :: rest) = splitOnP sep cs ++ splitOnP sep rest := by
  induction cs with
  | nil => simp [splitOnP, hc]
  | cons a cs ih =>
    rw [List.cons_append, splitOnP, splitOnP, ih]
    split
    · rfl
    · cases h : splitOnP sep cs with
      | nil => exact absurd h (splitOnP_ne_nil sep cs)
      | cons piece pieces => rfl

theorem splitOnP_of_none {cs : List Char} (h : ∀ c ∈ cs, sep c = false) :
    splitOnP sep cs = [cs] := by
  induction cs with
  | nil => rfl
  | cons a cs ih =>
    rw [splitOnP, if_neg (by simp [h a]), ih fun b hb => h b (by simp [hb])]

theorem splitOnP_append {cs rest : List Char} (h : ∀ c ∈ cs, sep c = false) {c : Char}
    (hc : sep c = true) : splitOnP sep (cs ++ c :: rest) = cs :: splitOnP sep rest := by
  rw [splitOnP_append_sep cs rest hc, splitOnP_of_none h]
  rfl

/-- No piece holds a separator. -/
theorem notSep_of_mem_splitOnP {cs : List Char} :
    ∀ piece ∈ splitOnP sep cs, ∀ c ∈ piece, sep c = false := by
  induction cs with
  | nil => simp [splitOnP]
  | cons a cs ih =>
    rw [splitOnP]
    split
    · simpa using ih
    · next ha =>
      have ha : sep a = false := by simpa using ha
      split
      · simp [ha]
      · next piece pieces heq =>
        rw [heq] at ih
        simp only [List.mem_cons, forall_eq_or_imp] at ih ⊢
        exact ⟨⟨ha, ih.1⟩, ih.2⟩

theorem mem_of_mem_splitOnP {cs : List Char} :
    ∀ piece ∈ splitOnP sep cs, ∀ c ∈ piece, c ∈ cs := by
  induction cs with
  | nil => simp [splitOnP]
  | cons a cs ih =>
    have htail : ∀ piece ∈ splitOnP sep cs, ∀ c ∈ piece, c ∈ a :: cs := fun piece hpiece c hc =>
      List.mem_cons_of_mem a (ih piece hpiece c hc)
    rw [splitOnP]
    split
    · simpa using htail
    · split
      · simp
      · next piece pieces heq =>
        rw [heq] at htail
        obtain ⟨hpiece, hpieces⟩ := List.forall_mem_cons.mp htail
        have hfirst := List.forall_mem_cons.mpr ⟨List.mem_cons_self, hpiece⟩
        exact List.forall_mem_cons.mpr ⟨hfirst, hpieces⟩

/-- A text is cut at the first place of a character in one way. -/
theorem append_cons_inj {x : Char} {u v r r' : List Char} (hu : x ∉ u) (hv : x ∉ v)
    (h : u ++ x :: r = v ++ x :: r') : u = v ∧ r = r' := by
  have hother {w : List Char} (hw : x ∉ w) : ∀ c ∈ w, (c == x) = false := fun c hc =>
    beq_false_of_ne fun heq => hw (heq ▸ hc)
  have hpieces := congrArg (splitOnP (· == x)) h
  rw [splitOnP_append (hother hu) (beq_self_eq_true x),
    splitOnP_append (hother hv) (beq_self_eq_true x)] at hpieces
  obtain rfl := (List.cons.inj hpieces).1
  exact ⟨rfl, (List.cons.inj (List.append_cancel_left h)).2⟩

/-- What adds up over a separator adds up over the pieces between them. -/
theorem sum_splitOnP {f : List Char → Nat} {x : Char}
    (hf : ∀ a b, f (a ++ x :: b) = f a + f b) (cs : List Char) :
    ((splitOnP (· == x) cs).map f).sum = f cs := by
  induction hlen : cs.length using Nat.strongRecOn generalizing cs with
  | ind n ih =>
    by_cases hx : x ∈ cs
    · obtain ⟨a, b, rfl, ha⟩ := List.eq_append_cons_of_mem hx
      have hfront : ∀ c ∈ a, (c == x) = false := fun c hc =>
        beq_false_of_ne fun heq => ha (heq ▸ hc)
      have hshorter : b.length < n := by
        rw [← hlen, List.length_append, List.length_cons]
        omega
      rw [splitOnP_append hfront (beq_self_eq_true x), List.map_cons, List.sum_cons,
        ih b.length hshorter b rfl, hf]
    · have hnone : ∀ c ∈ cs, (c == x) = false := fun c hc => beq_false_of_ne fun heq => hx (heq ▸ hc)
      rw [splitOnP_of_none hnone, List.map_singleton, List.sum_singleton]

/-! ### Lines -/

variable {cs last : List Char} {before : List (List Char)}

theorem linesOf_eq (h : splitOnP (· == '\n') cs = before ++ [last]) :
    linesOf cs = before.map dropReturn ++ (if last.isEmpty then [] else [last]) := by
  simp [linesOf, h]

theorem exists_splitOnP_eq (sep : Char → Bool) (cs : List Char) :
    ∃ before last, splitOnP sep cs = before ++ [last] := by
  rcases List.eq_nil_or_concat (splitOnP sep cs) with hnil | ⟨before, last, hsplit⟩
  · exact absurd hnil (splitOnP_ne_nil sep cs)
  · exact ⟨before, last, by rw [hsplit, List.concat_eq_append]⟩

/-- What neither empty lines nor carriage returns count for adds up over the lines as over the pieces
between line feeds. -/
theorem sum_linesOf {f : List Char → Nat} (hnil : f [] = 0) (hreturn : ∀ l, f (l ++ ['\r']) = f l)
    (cs : List Char) : ((linesOf cs).map f).sum = ((splitOnP (· == '\n') cs).map f).sum := by
  have hdrop (l : List Char) : f (dropReturn l) = f l := by
    rw [dropReturn]
    split
    · next hlast =>
      obtain ⟨front, rfl⟩ := List.getLast?_eq_some_iff.mp hlast
      rw [List.dropLast_concat, hreturn]
    · rfl
  obtain ⟨before, last, hsplit⟩ := exists_splitOnP_eq (· == '\n') cs
  have hbefore : (before.map dropReturn).map f = before.map f := by
    rw [List.map_map]
    exact List.map_congr_left fun l _ => hdrop l
  have hlast : ((if last.isEmpty then [] else [last]).map f).sum = f last := by
    cases last with
    | nil => exact hnil.symm
    | cons c last => simp
  rw [linesOf_eq hsplit, hsplit, List.map_append, List.map_append, List.sum_append, List.sum_append,
    hbefore, hlast, List.map_singleton, List.sum_singleton]

end Text

end SuiteBench
