import Mathlib.Data.List.Forall2
import SuiteBench.Pattern.Basic

/-!
# Proofs.Pattern.Spelling — the text that a match takes

A match from one place to another takes the text between them.  Whatever a search prefers, this text
is spelt by the pattern: it is made up of its characters in their order.
-/

namespace SuiteBench

namespace Cursor

/-- Whether one place lies behind another with a text between them. -/
structure Takes (c : Cursor) (w : List Char) (d : Cursor) : Prop where
  index : d.index = c.index + w.length
  rest : c.rest = w ++ d.rest

variable {s : CharSet} {c d e : Cursor} {v w : List Char}

theorem Takes.refl (c : Cursor) : c.Takes [] c := ⟨rfl, rfl⟩

theorem Takes.trans (h : c.Takes v d) (h' : d.Takes w e) : c.Takes (v ++ w) e where
  index := by
    rw [h'.index, h.index, List.length_append]
    omega
  rest := by rw [h.rest, h'.rest, List.append_assoc]

/-- What is between two places is the text that was taken. -/
theorem Takes.between (h : c.Takes w d) : Pattern.between c d = w := by
  have hlen : d.index - c.index = w.length := by
    have := h.index
    omega
  rw [Pattern.between, hlen, h.rest, List.take_left]

theorem takes_of_step? (h : c.step? s = some d) : ∃ x, s.has x = true ∧ c.Takes [x] d := by
  obtain ⟨index, before, rest⟩ := c
  cases rest with
  | nil => cases h
  | cons x rest =>
    simp only [step?] at h
    split at h
    · next hx =>
      cases h
      exact ⟨x, hx, rfl, rfl⟩
    · cases h

theorem mem_runOnto {limit index : Nat} {before : Option Char} {cs : List Char} {acc : List Cursor}
    (h : d ∈ runOnto s limit acc index before cs) : d ∈ acc ∨ ∃ w, (∀ x ∈ w, s.has x = true) ∧
      d.index = index + w.length ∧ cs = w ++ d.rest := by
  induction cs generalizing index before acc with
  | nil =>
    rcases List.mem_cons.mp h with rfl | h
    · exact .inr ⟨[], by simp, rfl, rfl⟩
    · exact .inl h
  | cons x cs ih =>
    rw [runOnto] at h
    split at h
    · next hx =>
      have hhas : s.has x = true := (Bool.and_eq_true_iff.mp hx).2
      rcases ih h with hacc | ⟨w, hw, hindex, hcs⟩
      · rcases List.mem_cons.mp hacc with rfl | hacc
        · exact .inr ⟨[], by simp, rfl, rfl⟩
        · exact .inl hacc
      · refine .inr ⟨x :: w, List.forall_mem_cons.mpr ⟨hhas, hw⟩, ?_, by rw [hcs]; rfl⟩
        rw [hindex, List.length_cons]
        omega
    · rcases List.mem_cons.mp h with rfl | h
      · exact .inr ⟨[], by simp, rfl, rfl⟩
      · exact .inl h

theorem takes_of_mem_run (h : d ∈ c.run s) : ∃ w, (∀ x ∈ w, s.has x = true) ∧ c.Takes w d := by
  rcases mem_runOnto h with hnil | ⟨w, hw, hindex, hrest⟩
  · cases hnil
  · exact ⟨w, hw, hindex, hrest⟩

end Cursor

namespace Pattern

/-- The texts that a pattern spells, whatever the places in it ask for. -/
inductive Spells : Pattern → List Char → Prop
  | empty : Spells .empty []
  | char {s : CharSet} {x : Char} (h : s.has x = true) : Spells (.char s) [x]
  | place (p : Place) : Spells (.place p) []
  | seq {a b : Pattern} {v w : List Char} (ha : Spells a v) (hb : Spells b w) :
      Spells (.seq a b) (v ++ w)
  | left {a b : Pattern} {w : List Char} (h : Spells a w) : Spells (.alt a b) w
  | right {a b : Pattern} {w : List Char} (h : Spells b w) : Spells (.alt a b) w
  | many {s : CharSet} {w : List Char} (h : ∀ x ∈ w, s.has x = true) : Spells (.many s) w
  | done (a : Pattern) : Spells (.star a) []
  | again {a : Pattern} {v w : List Char} (ha : Spells a v) (h : Spells (.star a) w) :
      Spells (.star a) (v ++ w)

variable {a p : Pattern} {c d : Cursor} {w : List Char}

theorem mem_of_mem_distinct {cs : List Cursor} (h : d ∈ distinct cs) : d ∈ cs := by
  induction cs with
  | nil => exact h
  | cons c cs ih =>
    rw [distinct, List.foldr_cons] at h
    rcases List.mem_cons.mp h with rfl | h
    · exact List.mem_cons_self
    · exact List.mem_cons_of_mem _ (ih (List.mem_filter.mp h).1)

/-- Repeated matches spell one after another. -/
theorem spells_of_mem_repeatEnds {step : Cursor → List Cursor}
    (hstep : ∀ c, ∀ d ∈ step c, ∃ w, a.Spells w ∧ c.Takes w d) (fuel : Nat) :
    ∀ c, ∀ d ∈ repeatEnds step fuel c, ∃ w, (star a).Spells w ∧ c.Takes w d := by
  induction fuel with
  | zero =>
    intro c d hd
    obtain rfl := List.mem_singleton.mp hd
    exact ⟨[], .done a, .refl d⟩
  | succ fuel ih =>
    intro c d hd
    rw [repeatEnds] at hd
    rcases List.mem_append.mp hd with hd | hd
    · obtain ⟨e, he, hd⟩ := List.mem_flatMap.mp (mem_of_mem_distinct hd)
      obtain ⟨v, hv, hce⟩ := hstep c e (List.mem_filter.mp he).1
      obtain ⟨w, hw, hed⟩ := ih e d hd
      exact ⟨v ++ w, .again hv hw, hce.trans hed⟩
    · obtain rfl := List.mem_singleton.mp hd
      exact ⟨[], .done a, .refl d⟩

/-- Where a match ends, the text behind it was spelt. -/
theorem spells_of_mem_ends : ∀ (p : Pattern) (c : Cursor), ∀ d ∈ p.ends c,
    ∃ w, p.Spells w ∧ c.Takes w d
  | .empty, c, d, h => by
    obtain rfl := List.mem_singleton.mp h
    exact ⟨[], .empty, .refl d⟩
  | .char s, c, d, h => by
    obtain ⟨x, hx, htakes⟩ := Cursor.takes_of_step? (Option.mem_toList.mp h)
    exact ⟨[x], .char hx, htakes⟩
  | .place p, c, d, h => by
    rw [ends] at h
    split at h
    · obtain rfl := List.mem_singleton.mp h
      exact ⟨[], .place p, .refl d⟩
    · cases h
  | .seq a b, c, d, h => by
    obtain ⟨e, he, hd⟩ := List.mem_flatMap.mp h
    obtain ⟨v, hv, hce⟩ := spells_of_mem_ends a c e he
    obtain ⟨w, hw, hed⟩ := spells_of_mem_ends b e d hd
    exact ⟨v ++ w, .seq hv hw, hce.trans hed⟩
  | .alt a b, c, d, h => by
    rcases List.mem_append.mp h with h | h
    · obtain ⟨w, hw, htakes⟩ := spells_of_mem_ends a c d h
      exact ⟨w, .left hw, htakes⟩
    · obtain ⟨w, hw, htakes⟩ := spells_of_mem_ends b c d h
      exact ⟨w, .right hw, htakes⟩
  | .many s, c, d, h => by
    obtain ⟨w, hw, htakes⟩ := Cursor.takes_of_mem_run h
    exact ⟨w, .many hw, htakes⟩
  | .star a, c, d, h =>
    spells_of_mem_repeatEnds (fun c d hd => spells_of_mem_ends a c d hd) c.rest.length c d h

theorem mem_ends_of_findFrom {index : Nat} {before : Option Char} {cs : List Char}
    (h : p.findFrom index before cs = some (c, d)) : d ∈ p.ends c := by
  induction cs generalizing index before with
  | nil =>
    rw [findFrom, Option.map_eq_some_iff] at h
    obtain ⟨e, he, heq⟩ := h
    cases heq
    exact List.mem_of_head? he
  | cons x cs ih =>
    rw [findFrom] at h
    split at h
    · next e he =>
      cases h
      exact List.mem_of_head? he
    · exact ih h

/-- What a search finds is spelt by the pattern. -/
theorem spells_of_find? {cs : List Char} (h : p.find? cs = some (c, d)) : p.Spells (between c d) := by
  obtain ⟨w, hw, htakes⟩ := spells_of_mem_ends p c d (mem_ends_of_findFrom h)
  rwa [htakes.between]

/-- Sets of characters one after another are spelt by members of each. -/
theorem forall₂_of_spells {ss : List CharSet} (h : (seqs (ss.map char)).Spells w) :
    List.Forall₂ (fun x s => s.has x = true) w ss := by
  induction ss generalizing w with
  | nil =>
    cases h
    exact .nil
  | cons s ss ih =>
    cases ss with
    | nil =>
      cases h with
      | char hx => exact .cons hx .nil
    | cons s' ss =>
      cases h with
      | seq hx hrest =>
        cases hx with
        | char hx => exact .cons hx (ih hrest)

theorem text_eq (s : String) : text s = seqs ((s.toList.map .one).map char) := by
  rw [text, List.map_map]
  rfl

theorem folded_eq (s : String) :
    folded s = seqs ((s.toList.map fun c => .ignoringCase (.one c)).map char) := by
  rw [folded, List.map_map]
  rfl

/-- A text is spelt by itself alone. -/
theorem eq_of_spells_text {s : String} (h : (text s).Spells w) : w = s.toList := by
  rw [text_eq] at h
  have hchars := List.forall₂_map_right_iff.mp (forall₂_of_spells h)
  exact List.forall₂_eq_eq_eq ▸ hchars.imp fun x c hx => beq_iff_eq.mp hx

/-- A text in any case is spelt by the texts that fold to the same. -/
theorem fold_eq_of_spells_folded {s : String} (h : (folded s).Spells w) :
    w.map Text.foldChar = s.toList.map Text.foldChar := by
  rw [folded_eq] at h
  have hchars := List.forall₂_map_right_iff.mp (forall₂_of_spells h)
  refine List.forall₂_eq_eq_eq ▸ List.forall₂_map_left_iff.mpr (List.forall₂_map_right_iff.mpr ?_)
  exact hchars.imp fun x c hx => beq_iff_eq.mp hx

end Pattern

end SuiteBench
