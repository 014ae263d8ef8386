import Mathlib.Data.List.Nodup
import SuiteBench.Log.Classifier
import SuiteBench.Proofs.Pattern.Surroundings

/-!
# Proofs.Log.WholeLines — the same signs among other lines

What a built-in rule finds in some lines it finds in them among others too, so lines in front of a log
and behind it never move a run to a later rule.  One sign is the exception: the prefix of the container
tool counts at the start of a log only, not at the start of a line.
-/

namespace SuiteBench.Log

open Pattern

variable {front log back : List Char}

/-! ### Conditions among other lines -/

namespace Matcher

mutual

/-- The conditions on places in the patterns of a condition. -/
def places : Matcher → List Place
  | contains _ => []
  | pattern p => p.places
  | all ms | any ms => placesOfAll ms
  | not m => m.places

/-- The conditions on places in the patterns of several conditions. -/
def placesOfAll : List Matcher → List Place
  | [] => []
  | m :: ms => m.places ++ placesOfAll ms

end

mutual

/-- Whether a condition asks for nothing to be absent. -/
def isPositive : Matcher → Bool
  | contains _ | pattern _ => true
  | all ms | any ms => areAllPositive ms
  | not _ => false

/-- Whether several conditions ask for nothing to be absent. -/
def areAllPositive : List Matcher → Bool
  | [] => true
  | m :: ms => m.isPositive && areAllPositive ms

end

theorem occursIn_iff {p cs : List Char} : Text.occursIn p cs = true ↔ p <:+: cs := by
  induction cs with
  | nil => rw [Text.occursIn, List.isEmpty_iff, List.infix_nil]
  | cons c cs ih =>
    have hstart : Text.startsWith p (c :: cs) = true ↔ p <+: c :: cs :=
      Text.startsWith_iff.trans (exists_congr fun _ => eq_comm)
    rw [Text.occursIn, Bool.or_eq_true, hstart, ih, List.infix_cons_iff]

mutual

theorem holds_within {m : Matcher} (hm : m.isPositive = true)
    (hp : ∀ q ∈ m.places, q.Carries front log back) (h : m.holds log = true) :
    m.holds (front ++ log ++ back) = true := by
  cases m with
  | contains s => exact occursIn_iff.mpr ((occursIn_iff.mp h).trans ⟨front, back, rfl⟩)
  | pattern p => exact isIn_within hp h
  | all ms => exact holdsAll_within hm hp h
  | any ms => exact holdsAny_within hm hp h
  | not m => cases hm

theorem holdsAll_within {ms : List Matcher} (hms : areAllPositive ms = true)
    (hp : ∀ q ∈ placesOfAll ms, q.Carries front log back) (h : holdsAll log ms = true) :
    holdsAll (front ++ log ++ back) ms = true := by
  cases ms with
  | nil => rfl
  | cons m ms =>
    obtain ⟨hm, hms⟩ := Bool.and_eq_true_iff.mp hms
    obtain ⟨hfirst, hrest⟩ := Bool.and_eq_true_iff.mp h
    refine Bool.and_eq_true_iff.mpr ⟨holds_within hm (fun q hq => hp q ?_) hfirst,
      holdsAll_within hms (fun q hq => hp q ?_) hrest⟩
    · exact List.mem_append_left _ hq
    · exact List.mem_append_right _ hq

theorem holdsAny_within {ms : List Matcher} (hms : areAllPositive ms = true)
    (hp : ∀ q ∈ placesOfAll ms, q.Carries front log back) (h : holdsAny log ms = true) :
    holdsAny (front ++ log ++ back) ms = true := by
  cases ms with
  | nil => cases h
  | cons m ms =>
    obtain ⟨hm, hms⟩ := Bool.and_eq_true_iff.mp hms
    refine Bool.or_eq_true_iff.mpr ((Bool.or_eq_true_iff.mp h).imp
      (holds_within hm fun q hq => hp q ?_) (holdsAny_within hms fun q hq => hp q ?_))
    · exact List.mem_append_left _ hq
    · exact List.mem_append_right _ hq

end

end Matcher

/-! ### The built-in rules -/

/-- What the container runtime says wherever it stands. -/
def containerTexts : List String :=
  ["cannot connect to the docker daemon", "unable to find image", "oci runtime", "no such container",
    "error response from daemon"]

/-- The signs of the container runtime that count wherever they stand. -/
def containerWords : Pattern := foldedAny containerTexts

theorem containerSign_eq :
    containerSign = alt (seq (place .textStart) (folded "docker: ")) containerWords := rfl

theorem places_containerWords : containerWords.places = [] := by decide

/-- No sign of the container runtime starts with a line feed. -/
theorem not_leads_feed {c d : Cursor} (hc : c.rest.head? = some '\n') :
    ¬ containerSign.Leads c d := by
  rw [containerSign_eq]
  rintro (⟨e, ⟨rfl, -⟩, hlead⟩ | hwords)
  · exact not_leads_folded (by decide) hc hlead
  · rw [containerWords, foldedAny, leads_anyOf] at hwords
    obtain ⟨p, hp, hwords⟩ := hwords
    obtain ⟨s, hs, rfl⟩ := List.mem_map.mp hp
    have hfirst : ∀ s ∈ containerTexts,
        s.toList.head?.any (fun x => !(CharSet.ignoringCase (.one x)).has '\n') = true := by
      decide
    exact not_leads_folded (hfirst s hs) hc hwords

/-- Behind another line the container rule goes by these signs alone. -/
theorem containerSign_isIn_cons :
    containerSign.isIn ('\n' :: log) = true ↔ containerWords.isIn log = true := by
  refine ⟨fun h => ?_, fun h => ?_⟩
  · rw [containerSign_eq, isIn_alt] at h
    refine isIn_of_cons places_containerWords
      (fun c d hc hcd => not_leads_feed hc (.inr hcd)) (h.resolve_left fun hlead => ?_)
    obtain ⟨c, d, ⟨u, v, htext, rfl⟩, e, ⟨rfl, hstart⟩, hwords⟩ := isIn_iff.mp hlead
    obtain rfl : u = [] := by simpa [Place.holds] using hstart
    refine not_leads_feed ?_ (.inl ⟨_, ⟨rfl, hstart⟩, hwords⟩)
    rw [← (show '\n' :: log = v from htext), List.head?_cons]
  · rw [containerSign_eq, isIn_alt]
    refine .inr ?_
    have hwords : containerWords.isIn (['\n'] ++ log ++ []) = true :=
      isIn_within (by simp [places_containerWords]) h
    simpa using hwords

/-- No rule asks for anything to be absent. -/
theorem isPositive_of_mem_cascade : ∀ r ∈ cascade, r.detect.isPositive = true := by decide

/-- All rules but that for containers ask only for starts of lines and edges of words. -/
theorem places_of_mem_cascade : ∀ r ∈ cascade, r.label ≠ .containerError →
    ∀ q ∈ r.detect.places, q = .lineStart false ∨ q = .word .edge false := by decide

theorem detect_of_label : ∀ r ∈ cascade, r.label = .containerError →
    r.detect = .pattern containerSign := by
  simp [cascade]

theorem detect_within {r : Rule} (hr : r ∈ cascade) (hlines : WholeLines front log back)
    (hlead : r.label = .containerError → front = [] ∨ containerWords.isIn log = true)
    (h : r.detect.holds log = true) : r.detect.holds (front ++ log ++ back) = true := by
  by_cases hlabel : r.label = .containerError
  · rw [detect_of_label r hr hlabel] at h ⊢
    obtain rfl | hwords := hlead hlabel
    · refine isIn_within (fun q hq => ?_) h
      obtain rfl : q = .textStart := by
        revert q
        decide
      exact Place.carries_textStart
    · rw [Matcher.holds, containerSign_eq, isIn_alt]
      exact .inr (isIn_within (by simp [places_containerWords]) hwords)
  · refine Matcher.holds_within (isPositive_of_mem_cascade r hr) (fun q hq => ?_) h
    obtain rfl | rfl := places_of_mem_cascade r hr hlabel q hq
    · exact Place.carries_lineStart hlines
    · exact Place.carries_edge hlines

/-! ### The label among other lines -/

/-- When a label has its turn: labels without a rule come last. -/
def turn (d : Diagnosis) : Nat := cascade.findIdx fun r => r.label == d

/-- The label of the first rule that matches has its turn when the rule has. -/
theorem findIdx_label {rs : List Rule} {P : Rule → Bool} {other : Diagnosis}
    (hnodup : (rs.map Rule.label).Nodup) (hother : other ∉ rs.map Rule.label) :
    rs.findIdx (fun r => r.label == ((rs.find? P).map Rule.label).getD other) = rs.findIdx P := by
  induction rs with
  | nil => rfl
  | cons r rs ih =>
    rw [List.map_cons, List.nodup_cons] at hnodup
    rw [List.map_cons, List.mem_cons, not_or] at hother
    rw [List.findIdx_cons, List.findIdx_cons, List.find?_cons]
    cases hr : P r with
    | true => simp
    | false =>
      have hne : r.label ≠ ((rs.find? P).map Rule.label).getD other := by
        cases hfound : rs.find? P with
        | none => exact fun h => hother.1 h.symm
        | some r' =>
          exact fun h => hnodup.1 (h ▸ List.mem_map_of_mem (List.mem_of_find?_eq_some hfound))
      rw [beq_false_of_ne hne, cond_false, cond_false, ih hnodup.2 hother.2]

/-- The label of a run that failed. -/
theorem diagnosis_classify (n : Nat) {code : Int} (hcode : code ≠ 0) (text : String) :
    ((Classifier.builtIn n).classify code false text).diagnosis =
      ((cascade.find? fun r => r.detect.holds text.toList).map Rule.label).getD .unknownFailure := by
  simp only [Classifier.classify, hcode, Classifier.builtIn]
  cases cascade.find? fun r => r.detect.holds text.toList <;> rfl

/-- A run that failed gets its label no later than from a rule that matches. -/
theorem turn_classify_le (n : Nat) {code : Int} (hcode : code ≠ 0) {text : String} {r : Rule}
    (hr : r ∈ cascade) (h : r.detect.holds text.toList = true) :
    turn ((Classifier.builtIn n).classify code false text).diagnosis ≤ turn r.label := by
  have hlabels : (cascade.map Rule.label).Nodup := by decide
  rw [diagnosis_classify n hcode, turn, findIdx_label hlabels (by decide)]
  refine List.findIdx_le_findIdx fun r' hr' hsame => ?_
  rwa [List.inj_on_of_nodup_map hlabels hr' hr (beq_iff_eq.mp hsame)]

/-- The built-in rules among other lines: what a rule finds in a log it finds when the log stands as
whole lines in a wider text, and a failed run whose log gets more lines is never labelled by a later
rule.  For the container rule this needs one of its words in the log, or nothing in front of it: behind
another line that rule goes by its words alone. -/
theorem detect_among_lines {front log back : String}
    (h : WholeLines front.toList log.toList back.toList) :
    (∀ r ∈ cascade, r.detect.holds log.toList = true →
      (r.label = .containerError → front = "" ∨ containerWords.isIn log.toList = true) →
        r.detect.holds (front ++ log ++ back).toList = true) ∧
      (containerSign.isIn ("\n" ++ log).toList = true ↔ containerWords.isIn log.toList = true) ∧
      ∀ (n : Nat) (code : Int), code ≠ 0 →
        (((Classifier.builtIn n).classify code false log).diagnosis = .containerError →
          front = "" ∨ containerWords.isIn log.toList = true) →
        turn ((Classifier.builtIn n).classify code false (front ++ log ++ back)).diagnosis ≤
          turn ((Classifier.builtIn n).classify code false log).diagnosis := by
  have hdetect (r : Rule) (hr : r ∈ cascade) (hholds : r.detect.holds log.toList = true)
      (hlead : r.label = .containerError → front = "" ∨ containerWords.isIn log.toList = true) :
      r.detect.holds (front ++ log ++ back).toList = true := by
    rw [String.toList_append, String.toList_append]
    exact detect_within hr h (fun hlabel => (hlead hlabel).imp_left (congrArg String.toList)) hholds
  refine ⟨hdetect, ?_, fun n code hcode hlead => ?_⟩
  · rw [String.toList_append]
    exact containerSign_isIn_cons
  · cases hfound : cascade.find? fun r => r.detect.holds log.toList with
    | none =>
      have hlast :
          turn ((Classifier.builtIn n).classify code false log).diagnosis = cascade.length := by
        rw [diagnosis_classify n hcode, hfound]
        decide
      rw [hlast]
      exact List.findIdx_le_length
    | some r =>
      have hlabel : ((Classifier.builtIn n).classify code false log).diagnosis = r.label := by
        rw [diagnosis_classify n hcode, hfound]
        rfl
      have hr := List.mem_of_find?_eq_some hfound
      obtain ⟨hholds, -⟩ := List.find?_eq_some_iff_append.mp hfound
      rw [hlabel] at hlead ⊢
      exact turn_classify_le n hcode hr (hdetect r hr hholds hlead)

theorem detect_among_lines_exception :
    WholeLines "starting\n".toList "a.bException".toList "\nlast words".toList ∧
      (Matcher.pattern exceptionSign).holds "a.bException".toList = true ∧
      (Matcher.pattern exceptionSign).holds
        ("starting\n" ++ "a.bException" ++ "\nlast words").toList = true ∧
      ((Classifier.builtIn 500).classify 1 false "a.bException").diagnosis = .runtimeException ∧
      turn ((Classifier.builtIn 500).classify 1 false
        ("starting\n" ++ "a.bException" ++ "\nlast words")).diagnosis ≤ turn .runtimeException := by
  have hlines : WholeLines "starting\n".toList "a.bException".toList "\nlast words".toList :=
    wholeLines_between "starting".toList "a.bException".toList "last words".toList
  have hrule : (⟨.runtimeException, .pattern exceptionSign, none⟩ : Rule) ∈ cascade := by
    simp [cascade]
  have hholds : (Matcher.pattern exceptionSign).holds "a.bException".toList = true := by
    decide +kernel
  have hlabel : ((Classifier.builtIn 500).classify 1 false "a.bException").diagnosis =
      .runtimeException := by decide +kernel
  obtain ⟨hdetect, -, hturn⟩ := detect_among_lines hlines
  have hlead : Diagnosis.runtimeException = .containerError →
      "starting\n" = "" ∨ containerWords.isIn "a.bException".toList = true := nofun
  refine ⟨hlines, hholds, hdetect _ hrule hholds hlead, hlabel, ?_⟩
  have h := hturn 500 1 (by decide)
  rw [hlabel] at h
  exact h hlead

/-- The prefix of the container tool is a sign on the first line of a log only. -/
theorem detect_not_among_lines :
    (∃ r ∈ cascade, r.detect.holds "docker: command not found".toList = true ∧
        r.detect.holds ("starting\n" ++ "docker: command not found" ++ "\n").toList = false) ∧
      ((Classifier.builtIn 500).classify 125 false "docker: command not found").diagnosis =
        .containerError ∧
      ((Classifier.builtIn 500).classify 125 false
        ("starting\n" ++ "docker: command not found" ++ "\n")).diagnosis = .unknownFailure := by
  decide +kernel

end SuiteBench.Log
