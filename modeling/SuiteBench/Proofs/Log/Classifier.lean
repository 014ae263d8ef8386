import SuiteBench.Proofs.Log.WholeLines

/-!
# Proofs.Log.Classifier — what a classification can say

The label, the deadline and the message of a classification depend on each other for every log: the
absence of an error is said of runs with exit code zero only, and every other label comes with a line
that holds something.  That rests on every line and every text that stands in for one being there.

For any rules at all the label of a failed run comes from the first rule whose condition the log meets:
neither the rules behind it nor rules that do not match have a say.  The message is cut from the first
line that this rule picks.  The built-in rules stand in the order of their labels, so among them the first
that matches is also the one with the least label.
-/

namespace SuiteBench

theorem Diagnosis.description_ne_nil (d : Diagnosis) : d.description.toList ≠ [] := by
  -- a literal is `String.ofList` of its characters; decoding it would take the kernel much longer
  have hcons (c : Char) (cs : List Char) : (String.ofList (c :: cs)).toList ≠ [] := by
    rw [String.toList_ofList]
    exact List.cons_ne_nil c cs
  cases d <;> exact hcons _ _

namespace Log

variable {r : Rule} {log line : List Char}

/-! ### Lines that hold something -/

theorem ne_nil_of_mem_meaningfulLines (h : line ∈ meaningfulLines log) : line ≠ [] := by
  have := (List.mem_filter.mp h).2
  simpa using this

theorem Rule.ne_nil_of_line? (h : r.line? log = some line) : line ≠ [] :=
  ne_nil_of_mem_meaningfulLines (List.mem_of_find?_eq_some h)

theorem ne_nil_of_lastLine? (h : lastLine? log = some line) : line ≠ [] :=
  ne_nil_of_mem_meaningfulLines (List.mem_reverse.mp (List.mem_of_find?_eq_some h))

theorem getD_ne_nil {found : Option (List Char)} {other : List Char}
    (h : ∀ line, found = some line → line ≠ []) (hother : other ≠ []) : found.getD other ≠ [] := by
  cases found with
  | none => exact hother
  | some line => exact h line rfl

namespace Classifier

/-- Whether every message of a classifier shows something, and none of its rules says that there is no
error. -/
structure Sound (c : Classifier) : Prop where
  labels : ∀ r ∈ c.rules, r.label ≠ .noError
  room : 0 < c.maxMessage

theorem sound_builtIn {n : Nat} (h : 0 < n) : (builtIn n).Sound where
  labels := by simp [builtIn, cascade]
  room := h

theorem timeoutLine_ne_nil (c : Classifier) (log : List Char) : c.timeoutLine log ≠ [] := by
  refine getD_ne_nil (fun line hline => ?_) (by decide)
  obtain ⟨r, -, hr⟩ := Option.bind_eq_some_iff.mp hline
  exact Rule.ne_nil_of_line? hr

variable {c : Classifier} (code : Int) (timedOut : Bool) (text : String)

/-- How a run is classified: nothing is wrong with it, or it gets a label and a line that holds
something. -/
theorem classify_cases (hc : c.Sound) :
    (code = 0 ∧ timedOut = false) ∧
        c.classify code timedOut text = ⟨.noError, "", countErrors text.toList⟩ ∨
      ¬ (code = 0 ∧ timedOut = false) ∧ ∃ d line,
        c.classify code timedOut text = c.finish d line (countErrors text.toList) ∧
          d ≠ .noError ∧ line ≠ [] ∧ (timedOut = true → d = .timeout) := by
  by_cases hgood : code = 0 ∧ timedOut = false
  · exact .inl ⟨hgood, by simp [classify, hgood]⟩
  · refine .inr ⟨hgood, ?_⟩
    cases timedOut with
    | true =>
      exact ⟨_, _, by simp [classify], by decide, c.timeoutLine_ne_nil text.toList, fun _ => rfl⟩
    | false =>
      have hcode : ¬ code = 0 := fun h => hgood ⟨h, rfl⟩
      cases hrule : c.rules.find? fun r => r.detect.holds text.toList with
      | some r =>
        refine ⟨r.label, (r.line? text.toList).getD r.label.description.toList,
          by simp [classify, hcode, hrule], hc.labels r (List.mem_of_find?_eq_some hrule), ?_, by simp⟩
        exact getD_ne_nil (fun line => Rule.ne_nil_of_line?) r.label.description_ne_nil
      | none =>
        refine ⟨.unknownFailure, _, by simp only [classify, hcode, hrule]; rfl, by decide, ?_, by simp⟩
        exact getD_ne_nil (fun line => ne_nil_of_lastLine?) (by simp)

/-- There is no error just where a run ended by itself with exit code zero. -/
theorem classify_noError_iff (hc : c.Sound) :
    (c.classify code timedOut text).diagnosis = .noError ↔ code = 0 ∧ timedOut = false := by
  obtain ⟨hgood, h⟩ | ⟨hbad, d, line, h, hd, -, -⟩ := classify_cases code timedOut text hc
  · rw [h]
    exact iff_of_true rfl hgood
  · simp [h, finish, hd, hbad]

/-- A run that the deadline killed timed out, whatever its log says. -/
theorem classify_deadline (hc : c.Sound) (ht : timedOut = true) :
    (c.classify code timedOut text).diagnosis = .timeout := by
  obtain ⟨hgood, -⟩ | ⟨-, d, line, h, -, -, hd⟩ := classify_cases code timedOut text hc
  · rw [ht] at hgood
    cases hgood.2
  · rw [h, finish, hd ht]

/-- Just the absence of an error goes without a message. -/
theorem classify_message_eq_empty_iff (hc : c.Sound) :
    (c.classify code timedOut text).message = "" ↔
      (c.classify code timedOut text).diagnosis = .noError := by
  obtain ⟨-, h⟩ | ⟨-, d, line, h, hd, hline, -⟩ := classify_cases code timedOut text hc
  · simp [h]
  · have hroom : c.maxMessage ≠ 0 := Nat.ne_of_gt hc.room
    simp [h, finish, hd, hline, hroom]

theorem length_classify_message (hc : c.Sound) :
    (c.classify code timedOut text).message.length ≤ c.maxMessage := by
  obtain ⟨-, h⟩ | ⟨-, d, line, h, -⟩ := classify_cases code timedOut text hc
  · simp [h]
  · simp only [h, finish, String.length_ofList, List.length_take]
    exact Nat.min_le_left _ _

end Classifier

/-! ### The first rule that matches -/

section Priority

variable {limit : Nat} {p : List Char → Bool} {lines : List (List Char)} {other : String}

/-- Whether an element is the first of a list that satisfies a condition. -/
def IsFirst {α : Type} (p : α → Bool) (xs : List α) (x : α) : Prop :=
  ∃ before after, xs = before ++ x :: after ∧ p x = true ∧ ∀ y ∈ before, p y = false

theorem isFirst_iff_find? {α : Type} {p : α → Bool} {xs : List α} {x : α} :
    IsFirst p xs x ↔ xs.find? p = some x := by
  rw [List.find?_eq_some_iff_append]
  simp only [Bool.not_eq_true']
  constructor
  · rintro ⟨before, after, hxs, hx, hbefore⟩
    exact ⟨hx, before, after, hxs, hbefore⟩
  · rintro ⟨hx, before, after, hxs, hbefore⟩
    exact ⟨before, after, hxs, hx, hbefore⟩

/-- Whether a message is cut from the first line that is picked, or from another text if none is. -/
def CutFrom (limit : Nat) (p : List Char → Bool) (lines : List (List Char)) (other : String)
    (message : String) : Prop :=
  ∃ line, (IsFirst p lines line ∨ (∀ l ∈ lines, p l = false) ∧ line = other.toList) ∧
    message.toList = line.take (min limit line.length)

theorem cutFrom_find? :
    CutFrom limit p lines other
      (String.ofList (((lines.find? p).getD other.toList).take limit)) := by
  refine ⟨(lines.find? p).getD other.toList, ?_, ?_⟩
  · cases hfound : lines.find? p with
    | some line => exact .inl (isFirst_iff_find?.mpr hfound)
    | none => exact .inr ⟨by simpa using hfound, rfl⟩
  · rw [String.toList_ofList, ← List.take_eq_take_min]

/-- The condition by which a rule picks the line to tell. -/
def Rule.picks (r : Rule) (line : List Char) : Bool := (r.extract.getD r.detect).holds line

/-- Whether a line is not one that the harness added. -/
def isFromTool (line : List Char) : Bool := !Text.startsWith harnessMark.toList line

/-- What decides a run that failed without being killed at its deadline. -/
structure DecidedBy (c : Classifier) (code : Int) (text : String) (k : Classification) : Prop where
  /-- The first rule that matches gives the label and picks the line, whatever stands behind it. -/
  first : ∀ front r back, c.rules = front ++ r :: back →
    (∀ q ∈ front, q.detect.holds text.toList = false) → r.detect.holds text.toList = true →
      k.diagnosis = r.label ∧
        CutFrom c.maxMessage r.picks (meaningfulLines text.toList) r.label.description k.message ∧
        ∀ rest, Classifier.classify ⟨front ++ r :: rest, c.maxMessage⟩ code false text = k
  /-- If no rule matches, the last line of the tool is told. -/
  nobody : (∀ r ∈ c.rules, r.detect.holds text.toList = false) →
    k.diagnosis = .unknownFailure ∧
      CutFrom c.maxMessage isFromTool (meaningfulLines text.toList).reverse
        ("Exit code " ++ Decimal.ofInt code ++ " with no output") k.message
  /-- A further rule that does not match has no say. -/
  inserted : ∀ front r back, c.rules = front ++ back → r.detect.holds text.toList = false →
    Classifier.classify ⟨front ++ r :: back, c.maxMessage⟩ code false text = k
  /-- Of the built-in rules that match, the one with the least label decides. -/
  least : c.rules = cascade → ∀ r ∈ cascade, r.detect.holds text.toList = true →
    k.diagnosis.rank ≤ r.label.rank ∧
      ∃ q ∈ cascade, q.detect.holds text.toList = true ∧ k.diagnosis = q.label

namespace Classifier

variable {c : Classifier} {code : Int} {text : String} {r : Rule}

/-- Of the rules only the first that matches has a say. -/
theorem classify_congr {rules rules' : List Rule} (hcode : code ≠ 0)
    (h : rules.find? (fun r => r.detect.holds text.toList) =
      rules'.find? fun r => r.detect.holds text.toList) :
    classify ⟨rules, limit⟩ code false text = classify ⟨rules', limit⟩ code false text := by
  simp only [classify, hcode, h]
  rfl

theorem classify_of_find? (hcode : code ≠ 0)
    (h : c.rules.find? (fun r => r.detect.holds text.toList) = some r) :
    c.classify code false text =
      c.finish r.label ((r.line? text.toList).getD r.label.description.toList)
        (countErrors text.toList) := by
  simp [classify, hcode, h]

theorem classify_of_nobody (hcode : code ≠ 0)
    (h : c.rules.find? (fun r => r.detect.holds text.toList) = none) :
    c.classify code false text =
      c.finish .unknownFailure ((lastLine? text.toList).getD
        ("Exit code " ++ Decimal.ofInt code ++ " with no output").toList)
        (countErrors text.toList) := by
  simp [classify, hcode, h]

end Classifier

/-- The built-in rules stand in the order of their labels. -/
theorem ranks_cascade : cascade.Pairwise fun r q => r.label.rank < q.label.rank := by decide

/-- The first rule that matches has the least label of those that match. -/
theorem rank_le_of_isFirst {rules : List Rule} {p : Rule → Bool} {r q : Rule}
    (hordered : rules.Pairwise fun r q => r.label.rank < q.label.rank) (hr : IsFirst p rules r)
    (hq : q ∈ rules) (hmatch : p q = true) : r.label.rank ≤ q.label.rank := by
  obtain ⟨before, after, rfl, -, hbefore⟩ := hr
  rcases List.mem_append.mp hq with hq | hq
  · rw [hbefore q hq] at hmatch
    cases hmatch
  · rcases List.mem_cons.mp hq with rfl | hq
    · exact Nat.le_refl _
    · exact Nat.le_of_lt (List.rel_of_pairwise_cons (List.pairwise_append.mp hordered).2.1 hq)

theorem decidedBy_classify (c : Classifier) {code : Int} (hcode : code ≠ 0) (text : String) :
    DecidedBy c code text (c.classify code false text) where
  first front r back hrules hfront hr := by
    have hfirst (rest : List Rule) :
        (front ++ r :: rest).find? (fun q => q.detect.holds text.toList) = some r :=
      isFirst_iff_find?.mp ⟨front, rest, rfl, hr, hfront⟩
    have hfound := hrules ▸ hfirst back
    refine ⟨?_, ?_, fun rest => ?_⟩
    · rw [Classifier.classify_of_find? hcode hfound]
      rfl
    · rw [Classifier.classify_of_find? hcode hfound]
      exact cutFrom_find?
    · exact Classifier.classify_congr hcode ((hfirst rest).trans hfound.symm)
  nobody hnone := by
    have hfound : c.rules.find? (fun r => r.detect.holds text.toList) = none := by
      simpa using hnone
    rw [Classifier.classify_of_nobody hcode hfound]
    exact ⟨rfl, cutFrom_find?⟩
  inserted front r back hrules hr := by
    refine Classifier.classify_congr hcode ?_
    rw [hrules, List.find?_append, List.find?_append, List.find?_cons, hr]
  least hrules r hr hmatch := by
    have hsome : (cascade.find? fun q => q.detect.holds text.toList).isSome :=
      List.find?_isSome.mpr ⟨r, hr, hmatch⟩
    obtain ⟨q, hq⟩ := Option.isSome_iff_exists.mp hsome
    have hqholds : q.detect.holds text.toList = true := (List.find?_eq_some_iff_append.mp hq).1
    rw [Classifier.classify_of_find? hcode (hrules ▸ hq)]
    exact ⟨rank_le_of_isFirst ranks_cascade (isFirst_iff_find?.mpr hq) hr hmatch, q,
      List.mem_of_find?_eq_some hq, hqholds, rfl⟩

/-- The classification of every run: exit code zero means that nothing is wrong and the deadline that
the run timed out, the first rule that matches decides all other runs, and the counts are those of the
log. -/
theorem classify_priority (c : Classifier) (code : Int) (timedOut : Bool) (text : String) :
    (c.classify code timedOut text).counts = countErrors text.toList ∧
      (code = 0 → timedOut = false →
        (c.classify code timedOut text).diagnosis = .noError ∧
          (c.classify code timedOut text).message = "") ∧
      (timedOut = true → (c.classify code timedOut text).diagnosis = .timeout) ∧
      (code ≠ 0 → timedOut = false → DecidedBy c code text (c.classify code timedOut text)) := by
  refine ⟨?_, ?_, ?_, ?_⟩
  · rw [Classifier.classify]
    split
    · rfl
    · split
      · rfl
      · split <;> rfl
  · rintro rfl rfl
    exact ⟨rfl, rfl⟩
  · rintro rfl
    simp [Classifier.classify, Classifier.finish]
  · rintro hcode rfl
    exact decidedBy_classify c hcode text

theorem classify_priority_late :
    let late : Rule := ⟨.timeout, .contains "late", some (.contains "E:")⟩
    let k := Classifier.classify ⟨[⟨.compilation, .contains "javac", none⟩, late], 7⟩ 1 false
      "start\n  E: late error \n"
    k.diagnosis = .timeout ∧ k.message = "E: late" ∧
      (∀ rest, Classifier.classify
        ⟨[⟨.compilation, .contains "javac", none⟩] ++ late :: rest, 7⟩ 1 false
          "start\n  E: late error \n" = k) ∧
      ((Classifier.builtIn 500).classify 1 false "a.bException: timed out").diagnosis.rank ≤
        Diagnosis.runtimeException.rank := by
  intro late k
  obtain ⟨-, -, -, hdecided⟩ := classify_priority
    ⟨[⟨.compilation, .contains "javac", none⟩, late], 7⟩ 1 false "start\n  E: late error \n"
  obtain ⟨hlabel, -, hrest⟩ := (hdecided (by decide) rfl).first
    [⟨.compilation, .contains "javac", none⟩] late [] rfl (by decide) (by decide)
  obtain ⟨-, -, -, hbuiltIn⟩ := classify_priority (.builtIn 500) 1 false "a.bException: timed out"
  have hleast := (hbuiltIn (by decide) rfl).least rfl ⟨.runtimeException, .pattern exceptionSign, none⟩
    (by simp [cascade]) (by decide +kernel)
  exact ⟨hlabel, by decide +kernel, hrest, hleast.1⟩

end Priority

end Log

end SuiteBench
