import SuiteBench.Proofs.Log.Classifier
import SuiteBench.Proofs.Pattern.Trimming

/-!
# Proofs.Log.Telling — a line that matches is told

Conditions are tried on the whole log, but the line to tell is looked for among trimmed lines, and two
rules look for it by other words.  A line that matches on its own is still told by every rule but two:
the container rule has no words for an image that is not found, and the sign of an error with a message
ends with a blank, which trimming takes away where the message is empty.
-/

namespace SuiteBench.Log

open Pattern

variable {line : List Char} {r : Rule}

/-! ### Conditions on trimmed lines -/

namespace Matcher

mutual

/-- Whether trimming a text cannot spoil a condition that holds of it. -/
def outlastsTrimming : Matcher → Bool
  | contains s => (text s).outlastsTrimming
  | pattern p => p.outlastsTrimming
  | all ms | any ms => allOutlastTrimming ms
  | not _ => false

/-- Whether trimming a text cannot spoil any of several conditions. -/
def allOutlastTrimming : List Matcher → Bool
  | [] => true
  | m :: ms => m.outlastsTrimming && allOutlastTrimming ms

end

theorem isIn_text_of_contains {s : String} (h : (contains s).holds line = true) :
    (text s).isIn line = true := isIn_text_iff.mpr (occursIn_iff.mp h)

mutual

theorem holds_trimChars {m : Matcher} (hm : m.outlastsTrimming = true)
    (h : m.holds line = true) : m.holds (Text.trimChars line) = true := by
  cases m with
  | contains s =>
    exact occursIn_iff.mpr (isIn_text_iff.mp (isIn_trimChars hm (isIn_text_of_contains h)))
  | pattern p => exact isIn_trimChars hm h
  | all ms => exact holdsAll_trimChars hm h
  | any ms => exact holdsAny_trimChars hm h
  | not m => cases hm

theorem holdsAll_trimChars {ms : List Matcher} (hms : allOutlastTrimming ms = true)
    (h : holdsAll line ms = true) : holdsAll (Text.trimChars line) ms = true := by
  cases ms with
  | nil => rfl
  | cons m ms =>
    obtain ⟨hm, hms⟩ := Bool.and_eq_true_iff.mp hms
    obtain ⟨hfirst, hrest⟩ := Bool.and_eq_true_iff.mp h
    exact Bool.and_eq_true_iff.mpr ⟨holds_trimChars hm hfirst, holdsAll_trimChars hms hrest⟩

theorem holdsAny_trimChars {ms : List Matcher} (hms : allOutlastTrimming ms = true)
    (h : holdsAny line ms = true) : holdsAny (Text.trimChars line) ms = true := by
  cases ms with
  | nil => cases h
  | cons m ms =>
    obtain ⟨hm, hms⟩ := Bool.and_eq_true_iff.mp hms
    exact Bool.or_eq_true_iff.mpr
      ((Bool.or_eq_true_iff.mp h).imp (holds_trimChars hm) (holdsAny_trimChars hms))

end

end Matcher

/-! ### Rules with words of their own for the line -/

/-- The words by which a line about values that did not cross to the client is picked. -/
def marshallingWords : Pattern :=
  anyOf [text "NoClassDefFoundError", text "UnmarshalException", text "NotSerializableException",
    marshalling]

/-- The signs that values did not cross to the client. -/
def serializationSigns : Matcher :=
  .any [.all [.contains "NoClassDefFoundError", .pattern frameworkType], .contains "UnmarshalException",
    .contains "NotSerializableException",
    .pattern (seqs [marshalling, folded " ", foldedAny ["return", "arguments"]])]

/-- Every sign that values did not cross holds one of the words. -/
theorem marshallingWords_isIn (h : serializationSigns.holds line = true) :
    marshallingWords.isIn line = true := by
  simp only [serializationSigns, Matcher.holds, Matcher.holdsAny, Matcher.holdsAll, Bool.or_eq_true,
    Bool.and_eq_true, Bool.false_eq_true, or_false, and_true] at h
  rw [marshallingWords, isIn_anyOf]
  obtain ⟨hmissing, -⟩ | hunmarshal | hserial | herror := h
  · exact ⟨_, by simp, Matcher.isIn_text_of_contains hmissing⟩
  · exact ⟨_, by simp, Matcher.isIn_text_of_contains hunmarshal⟩
  · exact ⟨_, by simp, Matcher.isIn_text_of_contains hserial⟩
  · exact ⟨_, by simp, isIn_of_seq herror⟩

/-- The words by which a line about the container runtime is picked. -/
def containerHints : Pattern := foldedAny ["docker", "oci runtime", "container", "daemon"]

/-- What the container runtime says about an image that it does not have. -/
def imageMissing : Pattern := folded "unable to find image"

theorem containerHints_isIn_of_part (s word s' : String)
    (hword : word ∈ ["docker", "oci runtime", "container", "daemon"])
    (h : (folded (s ++ word ++ s')).isIn line = true) : containerHints.isIn line = true :=
  isIn_anyOf.mpr ⟨folded word, List.mem_map_of_mem hword, isIn_folded_of_part h⟩

/-- Every other sign of the container runtime holds one of the words. -/
theorem containerHints_isIn (h : containerSign.isIn line = true)
    (himage : imageMissing.isIn line = false) : containerHints.isIn line = true := by
  rw [containerSign_eq, isIn_alt, containerWords, foldedAny, isIn_anyOf] at h
  obtain hlead | ⟨p, hp, hwords⟩ := h
  · obtain ⟨c, d, hc, b, ⟨rfl, -⟩, hcd⟩ := isIn_iff.mp hlead
    exact containerHints_isIn_of_part "" "docker" ": " (by simp) (isIn_iff.mpr ⟨c, d, hc, hcd⟩)
  · obtain ⟨s, hs, rfl⟩ := List.mem_map.mp hp
    simp only [containerTexts, List.mem_cons, List.not_mem_nil, or_false] at hs
    obtain rfl | rfl | rfl | rfl | rfl := hs
    · exact containerHints_isIn_of_part "cannot connect to the " "docker" " daemon" (by simp) hwords
    · rw [imageMissing, hwords] at himage
      cases himage
    · exact containerHints_isIn_of_part "" "oci runtime" "" (by simp) hwords
    · exact containerHints_isIn_of_part "no such " "container" "" (by simp) hwords
    · exact containerHints_isIn_of_part "error response from " "daemon" "" (by simp) hwords

/-! ### The sign of an error with a message -/

/-- A class name that ends like an error and what introduces the message. -/
def errorSign : Pattern := seqs [edge, several classNameChar, text "Error: "]

/-- What an error sign takes, up to the blank behind it. -/
theorem exists_of_spells_errorSign {w : List Char} (h : errorSign.Spells w) :
    ∃ name, Text.Firm (name ++ "Error:".toList) ∧ w = name ++ "Error:".toList ++ [' '] := by
  cases h with
  | seq hedge hrest =>
    cases hedge
    cases hrest with
    | @seq _ _ name _ hname hend =>
      rw [eq_of_spells_text hend]
      refine ⟨name, ⟨by simp, ?_, ?_⟩, by simp⟩
      · have hne : name ≠ [] := fun hnil => by
          cases hname.isNullable hnil
        rw [List.head?_append_of_ne_nil _ hne]
        exact hname.head_not_blank (by decide)
      · simp
        decide

/-- An error sign is found in the trimmed line too, unless its message is empty. -/
theorem errorSign_isIn_trimChars (h : errorSign.isIn line = true)
    (hend : ¬ "Error:".toList <:+ Text.trimChars line) :
    errorSign.isIn (Text.trimChars line) = true := by
  obtain ⟨front, back, hline, hblanks⟩ := Text.exists_eq_trimChars line
  generalize Text.trimChars line = t at hline hend ⊢
  subst hline
  obtain ⟨c, d, hc, hcd⟩ := isIn_iff.mp h
  obtain ⟨w, hw, htakes⟩ := hcd.spells
  obtain ⟨name, hfirm, rfl⟩ := exists_of_spells_errorSign hw
  -- all but the last blank lies between the blanks around the line
  have hname : c.Takes (name ++ "Error:".toList)
      ⟨c.index + (name ++ "Error:".toList).length, none, ' ' :: d.rest⟩ :=
    ⟨rfl, by rw [htakes.rest, List.append_assoc, List.singleton_append]⟩
  obtain ⟨⟨c', rfl, hc'⟩, hle⟩ := hname.of_firm hfirm hc hblanks
  by_cases hd : d.index ≤ front.length + t.length
  · have hplaces : errorSign.places.all Place.outlastsTrimming = true := by decide
    obtain ⟨d', -, hcd'⟩ := hcd.of_within (fun q hq =>
      Place.returns_of_outlasts (List.all_eq_true.mp hplaces q hq) hblanks) hc' hd
    exact isIn_iff.mpr ⟨c', d', hc', hcd'⟩
  · refine absurd ?_ hend
    obtain ⟨u, v, rfl, rfl⟩ := hc'
    have hindex := htakes.index
    have hrest : v ++ back = name ++ "Error:".toList ++ ' ' :: d.rest := hname.rest
    have hlen : v.length = (name ++ "Error:".toList).length := by
      simp only [Cursor.within, List.length_append, List.length_singleton] at hindex hle hd ⊢
      omega
    obtain ⟨rfl, -⟩ := List.append_inj hrest hlen
    exact ⟨u ++ name, by simp⟩

/-! ### What a rule tells -/

/-- The rule for the container runtime. -/
def containerRule : Rule := ⟨.containerError, .pattern containerSign, some (.pattern containerHints)⟩

/-- The rule for exceptions that nobody caught. -/
def exceptionRule : Rule := ⟨.runtimeException, .pattern exceptionSign, none⟩

/-- The lines that a rule matches and does not tell: a missing image goes by none of the words for
containers, and an error without a message loses the blank behind its colon. -/
def Rule.Misses (r : Rule) (line : List Char) : Prop :=
  r.label = .containerError ∧ imageMissing.isIn line = true ∧ containerHints.isIn line = false ∨
    r.label = .runtimeException ∧ "Error:".toList <:+ Text.trimChars line ∧
      exceptionSign.isIn (Text.trimChars line) = false

theorem containerRule_picks (h : containerRule.detect.holds line = true)
    (hmiss : ¬ containerRule.Misses line) : containerRule.picks (Text.trimChars line) = true := by
  refine isIn_trimChars (by decide) (?_ : containerHints.isIn line = true)
  by_contra hno
  rw [Bool.not_eq_true] at hno
  refine hmiss (.inl ⟨rfl, ?_, hno⟩)
  by_contra himage
  rw [containerHints_isIn h (Bool.not_eq_true _ ▸ himage)] at hno
  cases hno

theorem exceptionRule_picks (h : exceptionRule.detect.holds line = true)
    (hmiss : ¬ exceptionRule.Misses line) : exceptionRule.picks (Text.trimChars line) = true := by
  have hsign : exceptionSign = anyOf [text "Exception in thread",
    seqs [edge, many classNameChar, text "Exception", edge], errorSign] := rfl
  by_contra hno
  have hend : ¬ "Error:".toList <:+ Text.trimChars line := fun hend =>
    hmiss (.inr ⟨rfl, hend, Bool.not_eq_true _ ▸ hno⟩)
  refine hno ?_
  replace h : exceptionSign.isIn line = true := h
  rw [hsign, isIn_anyOf] at h
  obtain ⟨p, hp, h⟩ := h
  show exceptionSign.isIn (Text.trimChars line) = true
  rw [hsign, isIn_anyOf]
  refine ⟨p, hp, ?_⟩
  simp only [List.mem_cons, List.not_mem_nil, or_false] at hp
  obtain rfl | rfl | rfl := hp
  · exact isIn_trimChars (by decide) h
  · exact isIn_trimChars (by decide) h
  · exact errorSign_isIn_trimChars h hend

theorem toolError_isIn_trimChars (h : toolError.isIn line = true) :
    toolError.isIn (Text.trimChars line) = true := by
  rw [toolError, isIn_anyOf] at h ⊢
  obtain ⟨p, hp, h⟩ := h
  refine ⟨p, hp, ?_⟩
  simp only [List.mem_cons, List.not_mem_nil, or_false] at hp
  obtain rfl | rfl | rfl := hp
  · exact isIn_trimChars_of_indented (by decide) h
  · exact isIn_trimChars (by decide) h
  · exact isIn_trimChars (by decide) h

/-- A line that a built-in rule matches it picks when the line is trimmed. -/
theorem picks_trimChars (hr : r ∈ cascade) (h : r.detect.holds line = true)
    (hmiss : ¬ r.Misses line) : r.picks (Text.trimChars line) = true := by
  simp only [cascade, List.mem_cons, List.not_mem_nil, or_false] at hr
  obtain rfl | rfl | rfl | rfl | rfl | rfl | rfl | rfl | rfl | rfl := hr
  · exact Matcher.holds_trimChars (by decide) h
  · exact Matcher.holds_trimChars (by decide) h
  · exact isIn_trimChars (by decide) (marshallingWords_isIn h)
  · exact toolError_isIn_trimChars h
  · exact Matcher.holds_trimChars (by decide) h
  · exact Matcher.holds_trimChars (by decide) h
  · exact Matcher.holds_trimChars (by decide) h
  · exact Matcher.holds_trimChars (by decide) h
  · exact containerRule_picks h hmiss
  · exact exceptionRule_picks h hmiss

theorem eq_containerRule : ∀ r ∈ cascade, r.label = .containerError → r = containerRule := by
  simp [cascade, containerRule, containerHints]

theorem eq_exceptionRule : ∀ r ∈ cascade, r.label = .runtimeException → r = exceptionRule := by
  simp [cascade, exceptionRule]

/-- Of the lines that a built-in rule matches, it picks all when they are trimmed but those that it is
said to miss. -/
theorem picks_trimChars_iff (hr : r ∈ cascade) (h : r.detect.holds line = true) :
    r.picks (Text.trimChars line) = true ↔ ¬ r.Misses line := by
  refine ⟨fun hpicks => ?_, picks_trimChars hr h⟩
  rintro (⟨hlabel, -, hno⟩ | ⟨hlabel, -, hno⟩)
  · rw [eq_containerRule r hr hlabel] at hpicks
    obtain ⟨front, back, hline, -⟩ := Text.exists_eq_trimChars line
    have hplaces : containerHints.places = [] := by decide
    have hin : containerHints.isIn (front ++ Text.trimChars line ++ back) = true :=
      isIn_within (by simp [hplaces]) hpicks
    rw [← hline, hno] at hin
    cases hin
  · rw [eq_exceptionRule r hr hlabel] at hpicks
    exact Bool.eq_false_iff.mp hno hpicks

/-- No rule picks an empty line. -/
theorem picks_nil : ∀ r ∈ cascade, r.picks [] = false := by decide +kernel

theorem mem_meaningfulLines {log : List Char} (hline : line ∈ Text.linesOf log)
    (hne : Text.trimChars line ≠ []) : Text.trimChars line ∈ meaningfulLines log :=
  List.mem_filter.mpr ⟨List.mem_map_of_mem hline, by simpa using hne⟩

/-- What a failed run stores is a line of its log, trimmed and cut, wherever some line of the log is
matched on its own by the rule that decides, and is none of the few that this rule misses. -/
theorem message_of_matching_line (n : Nat) {code : Int} (hcode : code ≠ 0) {text : String} {r : Rule}
    (hfirst : IsFirst (fun q => q.detect.holds text.toList) cascade r) {line : List Char}
    (hline : line ∈ Text.linesOf text.toList) (hmatch : r.detect.holds line = true)
    (hmiss : ¬ r.Misses line) :
    ∃ told, IsFirst r.picks (meaningfulLines text.toList) told ∧
      ((Classifier.builtIn n).classify code false text).message.toList = told.take n := by
  have hfound := isFirst_iff_find?.mp hfirst
  have hr : r ∈ cascade := List.mem_of_find?_eq_some hfound
  have hpicks := (picks_trimChars_iff hr hmatch).mpr hmiss
  have hne : Text.trimChars line ≠ [] := fun hnil => by
    rw [hnil, picks_nil r hr] at hpicks
    cases hpicks
  have hsome : (r.line? text.toList).isSome :=
    List.find?_isSome.mpr ⟨_, mem_meaningfulLines hline hne, hpicks⟩
  obtain ⟨told, htold⟩ := Option.isSome_iff_exists.mp hsome
  refine ⟨told, isFirst_iff_find?.mpr htold, ?_⟩
  rw [Classifier.classify_of_find? hcode hfound, htold]
  exact String.toList_ofList

theorem message_of_matching_line_behind :
    exceptionRule.Misses "x.FooError: ".toList ∧
      ∃ told, IsFirst exceptionRule.picks
          (meaningfulLines "x.FooError: \n\tat a.bException\n".toList) told ∧
        ((Classifier.builtIn 500).classify 1 false
          "x.FooError: \n\tat a.bException\n").message.toList = told.take 500 := by
  refine ⟨.inr ⟨rfl, by decide, by decide +kernel⟩, ?_⟩
  have hmiss : ¬ exceptionRule.Misses "\tat a.bException".toList := by
    rintro (⟨hlabel, -⟩ | ⟨-, hend, -⟩)
    · cases hlabel
    · revert hend
      decide
  exact message_of_matching_line 500 (by decide)
    ⟨cascade.take 9, [], rfl, by decide +kernel, by decide +kernel⟩
    (by decide +kernel) (by decide +kernel) hmiss

/-- A missing image and an error without a message are told as the descriptions of their labels, though
the only line of the log is matched by the rule that decides. -/
theorem description_despite_line :
    (IsFirst (fun q => q.detect.holds "Unable to find image alpine locally".toList) cascade
        containerRule ∧
      Text.linesOf "Unable to find image alpine locally".toList =
        ["Unable to find image alpine locally".toList] ∧
      ((Classifier.builtIn 500).classify 125 false "Unable to find image alpine locally").message =
        "the container runtime failed" ∧
      ∀ l ∈ meaningfulLines "Unable to find image alpine locally".toList,
        "the container runtime failed".toList ≠ l.take 500) ∧
    (IsFirst (fun q => q.detect.holds "x.FooError: ".toList) cascade exceptionRule ∧
      Text.linesOf "x.FooError: ".toList = ["x.FooError: ".toList] ∧
      ((Classifier.builtIn 500).classify 1 false "x.FooError: ").message =
        "an unhandled runtime exception" ∧
      ∀ l ∈ meaningfulLines "x.FooError: ".toList,
        "an unhandled runtime exception".toList ≠ l.take 500) := by
  refine ⟨⟨⟨cascade.take 8, [exceptionRule], rfl, ?_, ?_⟩, ?_, ?_, ?_⟩,
    ⟨⟨cascade.take 9, [], rfl, ?_, ?_⟩, ?_, ?_, ?_⟩⟩ <;> decide +kernel

end SuiteBench.Log
