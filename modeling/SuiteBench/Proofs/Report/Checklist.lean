import SuiteBench.Proofs.Pattern.Spelling
import SuiteBench.Report.Checklist
import Mathlib.Data.List.Nodup

/-!
# Proofs.Report.Checklist — what the answers of a checklist can be

Whatever a checklist says, an answer is one of the options, it goes to a column of the qualitative
ones, and no column has two answers.
-/

namespace SuiteBench

open Pattern

namespace Evaluation

/-- What can be ticked. -/
def options : List String := ["Yes", "Partial", "No", "N/A"]

variable {content : String} {w : List Char} {a : String} {x : String × String}

theorem mem_options_of_spells
    (h : (anyOf [text "Yes", text "Partial", text "No", text "N/A"]).Spells w) :
    String.ofList w ∈ options := by
  have hmem : ∀ s ∈ options, (text s).Spells w → String.ofList w ∈ options := fun s hs hw => by
    rwa [eq_of_spells_text hw, String.ofList_toList]
  simp only [anyOf] at h
  cases h with
  | left h => exact hmem "Yes" (by decide) h
  | right h =>
    cases h with
    | left h => exact hmem "Partial" (by decide) h
    | right h =>
      cases h with
      | left h => exact hmem "No" (by decide) h
      | right h => exact hmem "N/A" (by decide) h

theorem has_tick {x : Char} : (CharSet.ofText "xX").has x = true ↔ x = 'x' ∨ x = 'X' := by
  simp [CharSet.ofText, CharSet.unions, CharSet.has]

/-- A ticked option is a box, blanks and the option. -/
theorem spells_tickedOption (h : tickedOption.Spells w) : ∃ x blanks option, (x = 'x' ∨ x = 'X') ∧
    (∀ c ∈ blanks, Text.isBlank c = true) ∧ option ∈ options ∧
      w = '[' :: x :: ']' :: (blanks ++ option.toList) := by
  simp only [tickedOption, seqs] at h
  obtain - | - | - | @⟨_, _, opening, w, hopen, h⟩ := h
  obtain - | - | - | @⟨_, _, mark, w, hmark, h⟩ := h
  obtain - | - | - | @⟨_, _, closing, w, hclose, h⟩ := h
  obtain - | - | - | @⟨_, _, blanks, w, hblanks, h⟩ := h
  obtain - | - | - | @⟨_, _, option, edges, hoption, hedge⟩ := h
  obtain rfl := eq_of_spells_text hopen
  obtain rfl := eq_of_spells_text hclose
  cases hmark with
  | @char _ x hx =>
    cases hblanks with
    | many hblanks =>
      cases hedge with
      | place =>
        refine ⟨x, blanks, String.ofList option, has_tick.mp hx, hblanks, mem_options_of_spells hoption, ?_⟩
        simp

/-- Behind a box and blanks stands the option. -/
theorem dropWhile_box {x : Char} {blanks : List Char} (hblanks : ∀ c ∈ blanks, Text.isBlank c = true)
    (ha : a ∈ options) (rest : List Char) :
    (('[' :: x :: ']' :: (blanks ++ (a.toList ++ rest))).drop 3).dropWhile Text.isBlank =
      a.toList ++ rest := by
  have hhead : ∀ s ∈ options, ∃ x xs, s.toList = x :: xs ∧ Text.isBlank x = false := by
    simp only [options, List.forall_mem_cons, List.not_mem_nil, false_implies, implies_true, and_true]
    exact ⟨⟨_, _, rfl, rfl⟩, ⟨_, _, rfl, rfl⟩, ⟨_, _, rfl, rfl⟩, ⟨_, _, rfl, rfl⟩⟩
  obtain ⟨y, ys, hchars, hy⟩ := hhead a ha
  rw [List.drop_succ_cons, List.drop_succ_cons, List.drop_succ_cons, List.drop_zero,
    List.dropWhile_append_of_pos hblanks, hchars, List.cons_append,
    List.dropWhile_cons_of_neg (by simp [hy])]

theorem ofList_box {x : Char} {blanks : List Char} (hblanks : ∀ c ∈ blanks, Text.isBlank c = true)
    (ha : a ∈ options) : String.ofList
      ((('[' :: x :: ']' :: (blanks ++ a.toList)).drop 3).dropWhile Text.isBlank) = a := by
  have hrest := dropWhile_box (x := x) hblanks ha []
  rw [List.append_nil] at hrest
  rw [hrest, String.ofList_toList]

/-- Every answer is one of the options. -/
theorem mem_options_of_answer? {sect : List Char} (h : answer? sect = some a) : a ∈ options := by
  rw [answer?, Option.map_eq_some_iff] at h
  obtain ⟨⟨c, d⟩, hfind, rfl⟩ := h
  obtain ⟨x, blanks, option, -, hblanks, hoption, hw⟩ := spells_tickedOption (spells_of_find? hfind)
  dsimp only
  rwa [hw, ofList_box hblanks hoption]

theorem columns_prompts : prompts.map (·.2) = Report.qualitativeColumns := rfl

theorem mem_ofText : x ∈ (ofText content).answers ↔
    ∃ prompt, (prompt, x.1) ∈ prompts ∧ answerTo? prompt content.toList = some x.2 := by
  rw [ofText, List.mem_mergeSort, List.mem_filterMap]
  constructor
  · rintro ⟨⟨prompt, column⟩, hp, hx⟩
    obtain ⟨a, ha, rfl⟩ := Option.map_eq_some_iff.mp hx
    exact ⟨prompt, hp, ha⟩
  · rintro ⟨prompt, hp, ha⟩
    exact ⟨(prompt, x.1), hp, Option.map_eq_some_iff.mpr ⟨x.2, ha, rfl⟩⟩

theorem column_of_mem_ofText (h : x ∈ (ofText content).answers) : x.1 ∈ Report.qualitativeColumns := by
  obtain ⟨prompt, hp, -⟩ := mem_ofText.mp h
  rw [← columns_prompts]
  exact List.mem_map_of_mem (f := (·.2)) hp

theorem answer_of_mem_ofText (h : x ∈ (ofText content).answers) : x.2 ∈ options := by
  obtain ⟨prompt, -, ha⟩ := mem_ofText.mp h
  obtain ⟨sect, -, ha⟩ := Option.bind_eq_some_iff.mp ha
  exact mem_options_of_answer? ha

/-- No column has two answers. -/
theorem nodup_ofText (content : String) : ((ofText content).answers.map (·.1)).Nodup := by
  have hsub : ∀ ps : List (String × String), ((ps.filterMap fun p =>
      (answerTo? p.1 content.toList).map fun a => (p.2, a)).map (·.1)).Sublist (ps.map (·.2)) := by
    intro ps
    induction ps with
    | nil => exact List.Sublist.refl _
    | cons p ps ih =>
      cases ha : answerTo? p.1 content.toList with
      | none => simpa [ha] using ih.cons p.2
      | some a => simpa [ha] using ih.cons_cons p.2
  have hnodup := (hsub prompts).nodup (by decide)
  exact ((List.mergeSort_perm _ _).map _).nodup_iff.mpr hnodup

/-- An evaluation of a checklist is complete if enough answers are neither empty nor inapplicable. -/
theorem isComplete_ofText (content : String) : (ofText content).isComplete =
    decide (5 ≤ (ofText content).answers.countP fun a => a.2 ≠ "" ∧ a.2 ≠ "N/A") := by
  have hcount : (ofText content).answers.countP (fun a => decide (a.2 ∉ ["", "N/A", "FALSE"])) =
      (ofText content).answers.countP fun a => decide (a.2 ≠ "" ∧ a.2 ≠ "N/A") := by
    refine List.countP_congr fun a ha => ?_
    have hoption : a.2 ≠ "FALSE" := fun he => by
      have := answer_of_mem_ofText ha
      rw [he] at this
      revert this
      decide
    simp [hoption]
  rw [isComplete, hcount, completeFrom]

end Evaluation

/-- A merge into a table replaces it. -/
theorem Report.mergeSteps_eq_ok_iff {d : ResultsDir} {t : Tree} {table : Path} {l : Location} {n : Nat}
    {steps : List Step} : mergeSteps d t table l = .ok (n, steps) ↔ ∃ content x text,
      t.find? l = some (.file content x) ∧ mergedTable d t table content = .ok (n, text) ∧
        steps = Step.replace l text.toUTF8 := by
  rw [mergeSteps]
  cases hf : t.find? l with
  | none => simp
  | some e =>
    cases e with
    | directory => simp
    | file content x =>
      cases hm : mergedTable d t table content with
      | error e =>
        refine iff_of_false (by simp [hm, bind, Except.bind]) ?_
        rintro ⟨_, _, _, he, ht, -⟩
        cases he
        rw [hm] at ht
        cases ht
      | ok merged =>
        obtain ⟨k, text⟩ := merged
        simp only [hm, bind, Except.bind, pure, Except.pure, Except.ok.injEq, Prod.mk.injEq]
        constructor
        · rintro ⟨rfl, rfl⟩
          exact ⟨content, x, text, rfl, hm, rfl⟩
        · rintro ⟨_, _, _, he, ht, rfl⟩
          cases he
          rw [hm] at ht
          cases ht
          exact ⟨rfl, rfl⟩

end SuiteBench
