import SuiteBench.Proofs.Execution.Templates

/-!
# Proofs.Execution.Invocation — what a run hands to the system

The texts of a command that passed its check are filled in field by field and none of their fields is
left.  Two things are not as even as that: a value may be taken for a field that is still to come, and
the working directory is filled in without having been checked.
-/

namespace SuiteBench

open Template

/-! ### Values in their places -/

/-- A template of a checked command is filled in by putting the value of each field that it reports in
the place of the field and leaving all other text unchanged, as long as none of these values could be
read on as a field that is filled in later. -/
theorem render_in_place {tool : ToolCommand} (h : tool.check = .ok ()) {template : String}
    (ht : template ∈ tool.templates) {c : RunContext} (hc : c.Undisturbed template) :
    (c.render template).toList = substituted c.value? template ∧
      (parts template).flatMap Part.written = template.toList ∧
      (parts template).filterMap Part.name? = placeholders template ∧
      ∀ name ∈ placeholders template, (c.value? name).isSome := by
  have hknown := ToolCommand.known_of_check h ht
  exact ⟨RunContext.toList_render hknown hc, written_parts template, names_parts template,
    fun name hname => c.value?_isSome (hknown name hname)⟩

/-- A run of an endpoint with braces in its names. -/
def bracedContext : RunContext where
  endpoint :=
    { id := 7, service := "\x7btests_dir\x7d", path := "/a", method := .get
      controllerClass := "A\x7bB\x7d", methodName := "f", pathParams := [], hasRequestBody := false
      expectedStatusCodes := [], authorization := .none }
  run := 2
  searchBudget := 60
  outputDir := ⟨"/r"⟩

/-- A template with a closing brace in front of its fields and one behind them that stays open. -/
def bracedTemplate : String := "\x7dx\x7bcontroller_class\x7d-\x7brun_number\x7d\x7b"

/-- A command of the template and of a lone field. -/
def bracedCommand : ToolCommand := ⟨"run", [bracedTemplate, "\x7bservice\x7d"], [], none, []⟩

theorem render_in_place_braced :
    bracedCommand.check = .ok () ∧ bracedTemplate ∈ bracedCommand.templates ∧
      bracedContext.Undisturbed bracedTemplate ∧
      (bracedContext.render bracedTemplate).toList = "\x7dxA\x7bB\x7d-2\x7b".toList := by
  have hcheck : bracedCommand.check = .ok () := by decide
  have hmem : bracedTemplate ∈ bracedCommand.templates := by decide
  have hvalues : bracedContext.Undisturbed bracedTemplate := by decide
  have h := render_in_place hcheck hmem hvalues
  exact ⟨hcheck, hmem, hvalues, h.1.trans (by decide)⟩

/-- A value that names a later field is filled in once more. -/
theorem render_not_in_place :
    bracedCommand.check = .ok () ∧ "\x7bservice\x7d" ∈ bracedCommand.templates ∧
      substituted bracedContext.value? "\x7bservice\x7d" = "\x7btests_dir\x7d".toList ∧
      (bracedContext.render "\x7bservice\x7d").toList = "/r/generated-tests".toList := by
  decide

/-! ### Fields that are left -/

namespace Invocation

/-- The program, the arguments and the values of the variables of a command. -/
def words (i : Invocation) : List String := i.program :: i.args ++ i.env.map Prod.snd

/-- The texts of a command that are handed to the system. -/
def texts (i : Invocation) : List String := i.words ++ i.workingDir.toList

end Invocation

namespace RunContext

variable {c : RunContext} {template : String}

/-- Whether no value of a run holds an opening brace. -/
def Plain (c : RunContext) : Prop := ∀ p ∈ c.values, '{' ∉ p.2.toList

instance (c : RunContext) : Decidable c.Plain :=
  inferInstanceAs (Decidable (∀ p ∈ c.values, '{' ∉ p.2.toList))

/-- What holds no opening brace is not read on as any field. -/
theorem Plain.undisturbed (h : c.Plain) (template : String) : c.Undisturbed template := by
  refine List.Pairwise.imp_of_mem (R := fun _ _ => True) (fun ha _ _ _ => ?_)
    (List.pairwise_of_forall fun _ _ => trivial)
  exact not_readsOnAs (h _ ha) _

/-- Where all fields are known, none is left. -/
theorem Plain.not_holdsField (h : c.Plain)
    (hknown : ∀ name ∈ placeholders template, name ∈ knownFields) :
    ¬ HoldsField (c.render template).toList := by
  rw [toList_render hknown (h.undisturbed template)]
  refine not_holdsField_partsFrom none _ nofun fun f hf => ?_
  obtain ⟨v, hv⟩ := Option.isSome_iff_exists.mp
    (c.value?_isSome (hknown _ (List.mem_map_of_mem hf)))
  rw [← lookup_values] at hv
  obtain ⟨l, r, hlr, -⟩ := List.lookup_eq_some_iff.mp hv
  exact ⟨v, (c.lookup_values _).symm.trans hv, h (String.ofList f, v) (by simp [hlr])⟩

/-- A field that is not known is left, unless another opens within its name. -/
theorem holdsField_of_unknown {name : String} (h : name ∈ placeholders template)
    (hunknown : name ∉ knownFields) (hopen : '{' ∉ name.toList) :
    HoldsField (c.render template).toList := by
  have hbraceless : Braceless name.toList := by
    obtain ⟨f, hf, rfl⟩ := List.mem_map.mp h
    refine ⟨hopen, ?_⟩
    rw [String.toList_ofList]
    exact notMem_fieldsFrom none _ nofun f hf
  rw [render, Template.render, String.toList_ofList]
  refine holdsField_of_mark_infix (mark_infix_foldl hbraceless (fun p hp => ?_) (mark_infix_of_mem h))
  have hknown : p.1 ∈ knownFields := c.names_values ▸ List.mem_map_of_mem hp
  exact ⟨braceless_knownFields _ hknown, fun heq => hunknown (heq ▸ hknown)⟩

/-- The words of the command that runs a tool come from its templates. -/
theorem mem_words_invocation {tool : ToolCommand} {text : String}
    (h : text ∈ (c.invocation tool).words) : ∃ template ∈ tool.templates, text = c.render template := by
  simp only [Invocation.words, invocation, List.map_map, List.mem_append, List.mem_cons,
    List.mem_map] at h
  obtain (rfl | ⟨arg, harg, rfl⟩) | ⟨p, hp, rfl⟩ := h
  · exact ⟨tool.program, by simp [ToolCommand.templates], rfl⟩
  · exact ⟨arg, by simp [ToolCommand.templates, harg], rfl⟩
  · refine ⟨p.2, ?_, rfl⟩
    exact List.mem_append_left _ (List.mem_append_right _ (List.mem_map_of_mem hp))

/-- So do all texts of the command that cleans up. -/
theorem mem_texts_cleanup {tool : ToolCommand} {cleanup : Invocation}
    (hcleanup : c.cleanup? tool = some cleanup) {text : String} (h : text ∈ cleanup.texts) :
    ∃ template ∈ tool.templates, text = c.render template := by
  rw [cleanup?] at hcleanup
  split at hcleanup
  · cases hcleanup
  · next program args hparts =>
    obtain rfl := Option.some.inj hcleanup
    have hrendered : text ∈ (program :: args).map c.render := by
      simpa [Invocation.texts, Invocation.words] using h
    obtain ⟨template, htemplate, rfl⟩ := List.mem_map.mp hrendered
    exact ⟨template, List.mem_append_right _ (hparts ▸ htemplate), rfl⟩

end RunContext

/-- With settings that passed their check and values without braces, no field is left in the program,
the arguments and the variables of a tool, nor in the command that cleans up after it.  The working
directory is not checked: a field is left in it only if it asks for one that is not known, and every
such field is left in whose name no other opens. -/
theorem fields_resolved {s : Settings} (hs : s.check = .ok ()) {c : RunContext} (hc : c.Plain) :
    (∀ text ∈ (c.invocation s.execution.tool).words, ¬ HoldsField text.toList) ∧
      (∀ cleanup, c.cleanup? s.execution.tool = some cleanup →
        ∀ text ∈ cleanup.texts, ¬ HoldsField text.toList) ∧
      ∀ dir, s.execution.tool.workingDir = some dir →
        (c.invocation s.execution.tool).workingDir = some (c.render dir.text) ∧
        (HoldsField (c.render dir.text).toList →
          ∃ name ∈ placeholders dir.text, name ∉ knownFields) ∧
        ∀ name ∈ placeholders dir.text, name ∉ knownFields → '{' ∉ name.toList →
          HoldsField (c.render dir.text).toList := by
  have hcheck : s.execution.tool.check = .ok () :=
    ExecutionSettings.tool_of_check (Settings.check_eq_ok.mp hs).2.1
  generalize s.execution.tool = tool at hcheck
  have hrender : ∀ template ∈ tool.templates, ¬ HoldsField (c.render template).toList :=
    fun template ht => hc.not_holdsField (ToolCommand.known_of_check hcheck ht)
  refine ⟨fun text htext => ?_, fun cleanup hcleanup text htext => ?_, fun dir hdir => ⟨?_, ?_, ?_⟩⟩
  · obtain ⟨template, ht, rfl⟩ := RunContext.mem_words_invocation htext
    exact hrender template ht
  · obtain ⟨template, ht, rfl⟩ := RunContext.mem_texts_cleanup hcleanup htext
    exact hrender template ht
  · rw [RunContext.invocation, hdir, Option.map_some]
  · intro hleft
    by_contra hnone
    exact hc.not_holdsField (fun name hname => not_not.mp fun hn => hnone ⟨name, hname, hn⟩) hleft
  · exact fun name hname hunknown hopen => RunContext.holdsField_of_unknown hname hunknown hopen

/-- The built-in settings with a working directory that asks for a field nobody knows. -/
def strayDirSettings : Settings :=
  { Settings.builtIn with execution := { ExecutionSettings.builtIn with
      tool := { ToolCommand.builtIn with workingDir := some ⟨"/work/\x7bbudget\x7d"⟩ } } }

/-- A run of an endpoint without braces in its names. -/
def plainContext : RunContext where
  endpoint := { bracedContext.endpoint with service := "orders", controllerClass := "com.example.A" }
  run := 2
  searchBudget := 60
  outputDir := ⟨"/r"⟩

/-- The working directory is not looked at. -/
theorem strayDirSettings_check : strayDirSettings.check = .ok () := Settings.check_builtIn

theorem fields_resolved_strayDir :
    strayDirSettings.check = .ok () ∧ plainContext.Plain ∧
      (∀ text ∈ (plainContext.invocation strayDirSettings.execution.tool).words,
        ¬ HoldsField text.toList) ∧
      strayDirSettings.execution.tool.workingDir = some ⟨"/work/\x7bbudget\x7d"⟩ ∧
      "budget" ∈ placeholders "/work/\x7bbudget\x7d" ∧ "budget" ∉ knownFields ∧
      HoldsField (plainContext.render "/work/\x7bbudget\x7d").toList := by
  have hplain : plainContext.Plain := by decide
  obtain ⟨hwords, -, hdir⟩ := fields_resolved strayDirSettings_check hplain
  have hasked : "budget" ∈ placeholders "/work/\x7bbudget\x7d" := by decide
  have hunknown : "budget" ∉ knownFields := by decide
  exact ⟨strayDirSettings_check, hplain, hwords, rfl, hasked, hunknown,
    (hdir _ rfl).2.2 "budget" hasked hunknown (by decide)⟩

/-- A field that is not known reaches the system with the working directory. -/
theorem fields_not_resolved :
    strayDirSettings.check = .ok () ∧ (∀ p ∈ plainContext.values, Braceless p.2.toList) ∧
      ∃ text ∈ (plainContext.invocation strayDirSettings.execution.tool).texts,
        HoldsField text.toList :=
  ⟨strayDirSettings_check, by decide, by decide⟩

end SuiteBench
