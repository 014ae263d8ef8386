import SuiteBench.Settings.Check

/-!
# Proofs.Settings.Check — what checked settings are known to be

A check is a row of demands, each of which holds of settings that passed it.  The built-in settings pass
in every domain; their texts are not blank, which the first letter of each tells.
-/

namespace SuiteBench

namespace Text

theorem isBlankText_ofList_cons {c : Char} {cs : List Char} (h : isBlank c = false) :
    isBlankText (String.ofList (c :: cs)) = false := by
  rw [isBlankText, String.toList_ofList, List.all_cons, h, Bool.false_and]

theorem isBlankText_append_of_left {s t : String} (h : isBlankText s = false) :
    isBlankText (s ++ t) = false := by
  rw [isBlankText] at h ⊢
  rw [String.toList_append, List.all_append, h, Bool.false_and]

end Text

namespace SettingsError

variable {holds : Bool} {domain what : String} {next : Unit → Except SettingsError Unit}

/-- A check that goes on past another one finds that it was passed. -/
theorem check_bind_eq_ok {first : Except SettingsError Unit} :
    (first >>= next) = .ok () ↔ first = .ok () ∧ next () = .ok () := by
  cases first <;> simp [bind, Except.bind]

theorem demand_eq_ok : demand holds domain what = .ok () ↔ holds = true := by
  cases holds <;> simp [demand]

/-- A check that goes on past a demand finds that it holds. -/
theorem demand_bind_eq_ok :
    (demand holds domain what >>= next) = .ok () ↔ holds = true ∧ next () = .ok () := by
  rw [check_bind_eq_ok, demand_eq_ok]

end SettingsError

/-- Checked settings name the log by a bare name. -/
theorem ExecutionSettings.bare_of_check {e : ExecutionSettings} (h : e.check = .ok ()) :
    '/' ∉ e.logFileName.toList := by
  simp only [check, SettingsError.demand_bind_eq_ok] at h
  obtain ⟨-, -, -, hbare, -⟩ := h
  intro hmem
  simp only [Bool.not_eq_true', List.any_eq_false] at hbare
  exact hbare '/' hmem rfl

/-- Checked settings do not give a run that the deadline killed the exit code of a good one. -/
theorem ExecutionSettings.timeoutExitCode_ne_zero {e : ExecutionSettings} (h : e.check = .ok ()) :
    e.timeoutExitCode ≠ 0 := by
  simp only [check, SettingsError.demand_bind_eq_ok] at h
  obtain ⟨-, -, hcode, -⟩ := h
  simpa using hcode

/-- Checked settings keep something of every message, and no more than is stored. -/
theorem ClassifierSettings.bounds_of_check {c : ClassifierSettings} (h : c.check = .ok ()) :
    0 < c.maxMessage ∧ c.maxMessage ≤ 500 := by
  simp only [check, SettingsError.demand_bind_eq_ok, SettingsError.demand_eq_ok] at h
  exact ⟨of_decide_eq_true h.1, of_decide_eq_true h.2⟩

/-- A checked command asks for known fields alone, its working directory apart. -/
theorem ToolCommand.known_of_check {t : ToolCommand} (h : t.check = .ok ()) {template : String}
    (ht : template ∈ t.templates) :
    ∀ name ∈ Template.placeholders template, name ∈ Template.knownFields := by
  simp only [check, SettingsError.demand_bind_eq_ok] at h
  have hnone : unknownField? t.templates = none := by
    cases hu : unknownField? t.templates with
    | none => rfl
    | some p =>
      rw [hu] at h
      cases h.2
  rw [unknownField?, List.findSome?_eq_none_iff] at hnone
  have hall := List.find?_eq_none.mp (Option.map_eq_none_iff.mp (hnone template ht))
  intro name hname
  simpa using hall name hname

/-- Checked bounds of a run have a checked command. -/
theorem ExecutionSettings.tool_of_check {e : ExecutionSettings} (h : e.check = .ok ()) :
    e.tool.check = .ok () := by
  simp only [check, SettingsError.demand_bind_eq_ok] at h
  exact h.2.2.2.2

/-- Settings that passed have passed in every domain. -/
theorem Settings.check_eq_ok {s : Settings} : s.check = .ok () ↔
    s.plan.check = .ok () ∧ s.execution.check = .ok () ∧ s.monitor.check = .ok () ∧
      s.classifier.check = .ok () ∧ s.report.check = .ok () ∧ s.logging.check = .ok () := by
  simp only [check, SettingsError.check_bind_eq_ok]

/-! ### The built-in settings -/

theorem ExecutionSettings.check_builtIn : builtIn.check = .ok () := by
  have hfields : ToolCommand.unknownField? ToolCommand.builtIn.templates = none := by decide
  have htool : ToolCommand.builtIn.check = .ok () := by
    rw [ToolCommand.check, SettingsError.demand_bind_eq_ok, hfields]
    exact ⟨by decide, rfl⟩
  simp only [check, SettingsError.demand_bind_eq_ok]
  exact ⟨by decide, by decide, by decide, by decide, htool⟩

theorem ReportSettings.check_builtIn : builtIn.check = .ok () := by
  rw [check, SettingsError.demand_eq_ok, Bool.not_eq_true', List.any_eq_false]
  intro caveat h
  rw [Bool.not_eq_true]
  obtain rfl | h := List.mem_cons.mp h
  · exact Text.isBlankText_append_of_left (Text.isBlankText_append_of_left
      (Text.isBlankText_ofList_cons (c := 'E') (by decide)))
  · obtain rfl := List.mem_singleton.mp h
    exact Text.isBlankText_append_of_left (Text.isBlankText_ofList_cons (c := 'C') (by decide))

theorem Settings.check_builtIn : builtIn.check = .ok () :=
  check_eq_ok.mpr ⟨by rfl, ExecutionSettings.check_builtIn, by rfl, by rfl,
    ReportSettings.check_builtIn, by rfl⟩

end SuiteBench
