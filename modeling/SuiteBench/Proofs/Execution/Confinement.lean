import SuiteBench.Execution.Executor
import SuiteBench.Proofs.Store.Paths
import SuiteBench.Proofs.Store.Sparing

/-!
# Proofs.Execution.Confinement — what one run of the tool can change

Whatever a tool does and however it ends, the tree changes only by the actions of what was started for
the run and by the harness's own steps in the run's directory.  A tool that keeps to its directory
therefore leaves every other run alone.
-/

namespace SuiteBench

/-- Once a signal has come, it or one before it is known. -/
theorem Shutdown.isShuttingDown_trigger (s : Shutdown) (x : Signal) :
    (s.trigger x).isShuttingDown = true := by
  simp [trigger, isShuttingDown]

/-- An action that a tool may take, whether or not it is asked to end. -/
def Performance.Does (p : Performance) (a : ToolAction) : Prop :=
  a ∈ p.course.actions ∨ a ∈ p.course.rest ∨ ∃ wait ms, a ∈ (p.stopped wait ms).actions

/-- Whether an action keeps a property of trees. -/
def ToolAction.Keeps (Q : Tree → Prop) (a : ToolAction) : Prop := ∀ t, Q t → Q (a.apply t)

/-- Whether an action changes nothing but what lies below a directory. -/
def ToolAction.Within (dir : Location) : ToolAction → Prop
  | put l _ | clear l => dir <+: l ∧ l ≠ dir
  | output .. | wait _ | raise _ => True

/-- Whether a location and all on the way to it are directories. -/
def Tree.Way (t : Tree) (l : Location) : Prop := ∀ p, p <+: l → t.find? p = some .directory

/-- What is put directly into a directory leaves the way to it. -/
theorem Tree.Way.set {t : Tree} {l m : Location} {name : String} {e : Entry} (h : t.Way l)
    (hm : m = l ++ [name]) : (t.set m e).Way l := by
  intro p hp
  rw [Tree.find?_set_of_ne, h p hp]
  rintro rfl
  have hlen := hp.length_le
  simp [hm] at hlen

namespace ToolAction

variable {a : ToolAction} {dir b : Location} {t u : Tree}

theorem Within.spares (h : a.Within dir) (hb : dir.Apart b) : a.Keeps (Tree.Spares b u) := by
  intro t ht
  cases a with
  | put l e =>
    have hl : l.Apart b := hb.of_prefix h.1
    refine ht.trans ⟨fun m _ hm he => ?_, fun m hm => ?_⟩
    · rw [apply, Tree.find?_set_of_ne t e fun hml : m = l => hl.1 (hml ▸ hm), he]
    · rw [apply, Tree.find?_set_of_ne t e fun hml : m = l => hl.2 (hml ▸ hm)]
  | clear l =>
    have hl : l.Apart b := hb.of_prefix h.1
    refine ht.trans ⟨fun m _ hm he => ?_, fun m hm => ?_⟩
    · rw [apply, Tree.find?_cut_elsewhere t fun hlm => hl.1 (hlm.trans hm), he]
    · rw [apply, Tree.find?_cut_elsewhere t fun hlm => hl.not_both hlm hm]
  | output s bytes | wait ms | raise s => exact ht

/-- What stays below a directory changes neither the directory nor anything outside it. -/
theorem Within.find?_eq (h : a.Within dir) (t : Tree) {m : Location} (hm : dir <+: m → m = dir) :
    (a.apply t).find? m = t.find? m := by
  cases a with
  | put l e => exact Tree.find?_set_of_ne t e fun hml => h.2 (hml ▸ hm (hml ▸ h.1))
  | clear l =>
    refine Tree.find?_cut_elsewhere t fun hlm => h.2 ?_
    have hlen := hlm.length_le
    rw [hm (h.1.trans hlm)] at hlen
    exact (h.1.eq_of_length (Nat.le_antisymm h.1.length_le hlen)).symm
  | output s bytes | wait ms | raise s => rfl

/-- What stays below a directory does not take the directory. -/
theorem Within.way (h : a.Within dir) : a.Keeps fun t => t.Way dir := fun t ht p hp =>
  (h.find?_eq t fun hdp => hp.eq_of_length (Nat.le_antisymm hp.length_le hdp.length_le)).trans
    (ht p hp)

end ToolAction

namespace Observation

variable {Q : Tree → Prop} {operator : Operator} {o : Observation}

@[simp] theorem tree_listen (operator : Operator) (o : Observation) :
    (o.listen operator).world.tree = o.world.tree := by
  rw [listen, Operator.listen]
  split <;> rfl

@[simp] theorem tree_after (o : Observation) (a : ToolAction) :
    (o.after a).world.tree = a.apply o.world.tree := by
  cases a <;> rfl

@[simp] theorem tree_wait (o : Observation) (ms : Nat) : (o.wait ms).world.tree = o.world.tree := rfl

theorem tree_follow (operator : Operator) (deadline : Nat) (ending : ToolEnding)
    {actions : List ToolAction} (h : ∀ a ∈ actions, a.Keeps Q) (waits : Nat) (ho : Q o.world.tree) :
    Q (follow operator deadline ending waits actions o).1.world.tree := by
  induction actions generalizing waits o with
  | nil => cases ending <;> exact ho
  | cons a rest ih =>
    have hrest := fun {o} => ih (o := o) fun b hb => h b (List.mem_cons_of_mem _ hb)
    have hafter : Q (o.after a).world.tree := by
      rw [tree_after]
      exact h a List.mem_cons_self _ ho
    cases a with
    | wait ms =>
      have hl : Q (o.listen operator).world.tree := by simpa using ho
      rw [follow]
      split
      · exact hl
      · split
        · exact hl
        · exact hrest (waits + 1) hl
    | output s bytes => exact hrest waits hafter
    | put l e => exact hrest waits hafter
    | clear l => exact hrest waits hafter
    | raise s => exact hrest waits hafter

theorem tree_followFor {actions : List ToolAction} (h : ∀ a ∈ actions, a.Keeps Q) (time : Nat)
    (ho : Q o.world.tree) : Q (followFor time actions o).world.tree := by
  induction actions generalizing time o with
  | nil => exact ho
  | cons a rest ih =>
    have hrest := fun {o} => ih (o := o) fun b hb => h b (List.mem_cons_of_mem _ hb)
    have hafter : Q (o.after a).world.tree := by
      rw [tree_after]
      exact h a List.mem_cons_self _ ho
    cases a with
    | wait ms =>
      rw [followFor]
      split
      · exact ho
      · exact hrest _ ho
    | output s bytes | put l e | clear l | raise s =>
      rw [followFor]
      · split
        · exact ho
        · exact hrest _ hafter
      · simp

theorem tree_without (s : OutputStream) (o : Observation) (a : ToolAction) :
    (o.without s a).world.tree = a.apply o.world.tree := by
  cases a with
  | output s' bytes =>
    rw [without]
    split <;> rfl
  | _ => rfl

theorem tree_followRest {actions : List ToolAction} (h : ∀ a ∈ actions, a.Keeps Q)
    (unread : Option OutputStream) (time : Nat) (ho : Q o.world.tree) :
    Q (followRest unread time actions o).1.world.tree ∧
      ∀ a ∈ (followRest unread time actions o).2, a.Keeps Q := by
  induction actions generalizing time o with
  | nil => exact ⟨ho, h⟩
  | cons a rest ih =>
    have hr : ∀ b ∈ rest, b.Keeps Q := fun b hb => h b (List.mem_cons_of_mem _ hb)
    have hrest := fun {o} => ih (o := o) hr
    have hafter : Q (o.after a).world.tree := by
      rw [tree_after]
      exact h a List.mem_cons_self _ ho
    have hwithout : ∀ s, Q (o.without s a).world.tree := fun s => by
      rw [tree_without]
      exact h a List.mem_cons_self _ ho
    cases a with
    | wait ms =>
      rw [followRest]
      split
      · refine ⟨ho, fun b hb => ?_⟩
        rcases List.mem_cons.mp hb with rfl | hb
        · exact fun _ ht => ht
        · exact hr b hb
      · exact hrest _ ho
    | output s bytes | put l e | clear l | raise s =>
      cases unread with
      | none => exact hrest time hafter
      | some s => exact hrest time (hwithout s)

theorem tree_drain {c : ToolCourse} (h : ∀ a ∈ c.rest, a.Keeps Q) (grace : Nat)
    (ho : Q o.world.tree) : Q (o.drain grace c).world.tree := by
  have hclosed : ∀ (b : Bool) (o : Observation) (s : OutputStream),
      (if b then { o with arrivals := .closed s :: o.arrivals } else o).world.tree = o.world.tree := by
    intro b o s
    cases b <;> rfl
  have hfirst := tree_followRest h none (min (c.holds .out) grace) ho
  simp only [drain]
  rw [hclosed]
  refine (tree_followRest hfirst.2 _ _ ?_).1
  rw [hclosed]
  exact hfirst.1

/-- What every action of a tool keeps is kept while it is watched. -/
theorem tree_watch {p : Performance} (h : ∀ a, p.Does a → a.Keeps Q) (operator : Operator)
    (deadline grace : Nat) {w : World} (hw : Q w.tree) :
    Q (watch operator deadline grace p w).1.world.tree := by
  have hactions : ∀ a ∈ p.course.actions, a.Keeps Q := fun a ha => h a (.inl ha)
  have hl : Q ((⟨w, 0, []⟩ : Observation).listen operator).world.tree := by simpa using hw
  have hf := tree_follow operator deadline p.course.ending hactions 0 hl
  rw [watch]
  split
  · exact hl
  · split
    · exact hl
    · split
      · next heq =>
        rw [heq] at hf
        exact tree_drain (fun a ha => h a (.inr (.inl ha))) grace hf
      · next heq =>
        rw [heq] at hf
        exact tree_followFor (fun a ha => h a (.inr (.inr ⟨_, _, ha⟩))) grace hf

/-- A signal that came before ends the watch at once, and is remembered. -/
theorem watch_of_fired (operator : Operator) (deadline grace : Nat) (p : Performance) {w : World}
    (h : w.shutdown.isShuttingDown = true) :
    ∃ s, (watch operator deadline grace p w).2 = .interrupted s ∧
      (watch operator deadline grace p w).1.world.shutdown.isShuttingDown = true := by
  obtain ⟨s, hs⟩ := Option.isSome_iff_exists.mp h
  have hl : (operator.listen w).shutdown.fired = some s := by
    rw [Operator.listen]
    split
    · simp [Shutdown.trigger, hs]
    · exact hs
  have hw : watch operator deadline grace p w = ((⟨w, 0, []⟩ : Observation).listen operator,
      .interrupted s) := by
    simp only [watch, listen, hl]
  exact ⟨s, by rw [hw], by rw [hw, Shutdown.isShuttingDown, listen, hl]; rfl⟩

end Observation

namespace Executor

variable {x : Executor} {c : RunContext} {Q : Tree → Prop} {w : World}

/-- Where the log of a run stands. -/
def logAt (x : Executor) (dir : Location) : Location :=
  (dir.path.join x.settings.logFileName).locate []

/-- An action that the tool, or the cleanup after it, may take in a run. -/
def Does (x : Executor) (c : RunContext) (a : ToolAction) : Prop :=
  ∃ command t p, (command = c.invocation x.settings.tool ∨
    c.cleanup? x.settings.tool = some command) ∧ x.tool.start command t = .ok p ∧ p.Does a

theorem tree_cleanUp (h : ∀ a, x.Does c a → a.Keeps Q) (hw : Q w.tree) :
    Q (x.cleanUp c w).tree := by
  rw [cleanUp]
  split
  · exact hw
  · next command hc =>
    split
    · exact hw
    · next p hp =>
      exact Observation.tree_watch (fun a ha => h a ⟨command, _, p, .inr hc, hp, ha⟩) .absent _ _ hw

theorem shutdown_cleanUp (x : Executor) (c : RunContext) (w : World) :
    (x.cleanUp c w).shutdown = w.shutdown := by
  rw [cleanUp]
  split
  · rfl
  · split <;> rfl

/-- How a run goes: its directory cannot be prepared, or what was started does what it does there, and
the log is written in the end. -/
theorem execute_cases (x : Executor) (e : Endpoint) (run budget : Nat) (dir : Location) (w : World) :
    (∃ t f, Step.run w.tree (x.prepareSteps dir) = (t, some f) ∧
      x.execute e run budget dir w = (.error (.file f), { w with tree := t })) ∨
    ∃ (t : Tree) (w' : World) (lines : List (List Char)),
      Step.run w.tree (x.prepareSteps dir) = (t, none) ∧
      (x.execute e run budget dir w).2 = { w' with
        tree := writeLog w'.tree (x.logAt dir) lines } ∧
      (∀ Q : Tree → Prop, (∀ a, x.Does ⟨e, run, budget, dir.path⟩ a → a.Keeps Q) →
        Q t → Q w'.tree) ∧
      (w.shutdown.isShuttingDown = true → w'.shutdown.isShuttingDown = true) ∧
      ((∃ y, (x.execute e run budget dir w).1 = .ok y ∧ y.key = ⟨e.id, run⟩) ∨
        ∃ s, (x.execute e run budget dir w).1 = .error (.cancelled s)) := by
  unfold execute
  cases hprep : Step.run w.tree (x.prepareSteps dir) with
  | mk t failure =>
  cases failure with
  | some f => exact .inl ⟨t, f, rfl, rfl⟩
  | none =>
    right
    dsimp only
    split
    · exact ⟨t, _, _, rfl, rfl, fun Q _ ht => ht, fun h => h, .inl ⟨_, rfl, rfl⟩⟩
    · next p hp =>
      have hdoes : ∀ a, p.Does a → x.Does ⟨e, run, budget, dir.path⟩ a := fun a ha =>
        ⟨_, t, p, .inl rfl, hp, ha⟩
      have hseen := fun (Q : Tree → Prop) (hQ : ∀ a, x.Does ⟨e, run, budget, dir.path⟩ a → a.Keeps Q)
        (ht : Q t) => Observation.tree_watch (fun a ha => hQ a (hdoes a ha)) x.operator
          (x.settings.deadlineFor budget * 1000) x.grace (w := { w with tree := t }) ht
      have hfired := fun h : w.shutdown.isShuttingDown = true =>
        Observation.watch_of_fired x.operator (x.settings.deadlineFor budget * 1000) x.grace p
          (w := { w with tree := t }) h
      split
      · next hw =>
        have hquiet : ¬ w.shutdown.isShuttingDown = true := fun h => by
          obtain ⟨s, hs, -⟩ := hfired h
          rw [hw] at hs
          cases hs
        exact ⟨t, _, _, rfl, rfl, hseen, fun h => absurd h hquiet, .inl ⟨_, rfl, rfl⟩⟩
      · next hw =>
        have hquiet : ¬ w.shutdown.isShuttingDown = true := fun h => by
          obtain ⟨s, hs, -⟩ := hfired h
          rw [hw] at hs
          cases hs
        exact ⟨t, _, _, rfl, rfl, fun Q hQ ht => tree_cleanUp hQ (hseen Q hQ ht),
          fun h => absurd h hquiet, .inl ⟨_, rfl, rfl⟩⟩
      · next hw =>
        refine ⟨t, _, _, rfl, rfl, fun Q hQ ht => tree_cleanUp hQ (hseen Q hQ ht), fun h => ?_,
          .inr ⟨_, rfl⟩⟩
        obtain ⟨s, -, hs⟩ := hfired h
        rw [shutdown_cleanUp]
        exact hs

/-! ### A tool that keeps to its directory -/

theorem writeLog_cases (t : Tree) (l : Location) (lines : List (List Char)) :
    writeLog t l lines = t ∨ (Step.write l (logBytes lines)).apply t = .ok (writeLog t l lines) := by
  rw [writeLog]
  split
  · split
    · next h => exact .inr h
    · exact .inl rfl
  · exact .inl rfl

variable {dir b : Location} {e : Endpoint} {run budget : Nat}

/-- A run leaves alone what lies apart from its directory and its log. -/
theorem execute_spares (h : ∀ a, x.Does ⟨e, run, budget, dir.path⟩ a → a.Within dir)
    (hb : dir.Apart b) (hl : (x.logAt dir).Apart b) :
    Tree.Spares b w.tree (x.execute e run budget dir w).2.tree := by
  have hprep : ∀ s ∈ x.prepareSteps dir, s.Avoids b := by
    intro s hs
    simp only [prepareSteps, List.mem_cons, List.not_mem_nil, or_false] at hs
    rcases hs with rfl | rfl | rfl | rfl
    · exact Step.avoids_makeDirs hb.2
    · exact Step.avoids_makeDirs (hb.append _).2
    · exact Step.avoids_makeDirs (hb.append _).2
    · exact Step.avoids_write hl
  obtain ⟨t, f, ht, he⟩ | ⟨t, w', lines, ht, he, hQ, -⟩ := execute_cases x e run budget dir w
  · rw [he]
    exact Tree.spares_of_run ht hprep
  · rw [he]
    have hseen : Tree.Spares b w.tree w'.tree :=
      hQ _ (fun a ha => (h a ha).spares hb) (Tree.spares_of_run ht hprep)
    dsimp only
    rcases writeLog_cases w'.tree (x.logAt dir) lines with hw | hw
    · rwa [hw]
    · exact hseen.trans (Tree.spares_apply hw (Step.avoids_write hl))

/-- Where nothing stood, a run that is prepared has its log directly in its directory. -/
theorem way_of_prepared {t u : Tree} (hd : dir.Proper) (hn : '/' ∉ x.settings.logFileName.toList)
    (hnone : t.find? dir = none) (ht : Step.run t (x.prepareSteps dir) = (u, none)) :
    x.logAt dir = dir ++ [x.settings.logFileName] ∧ u.Way dir := by
  rw [prepareSteps] at ht
  obtain ⟨v1, h1, ht⟩ := Step.run_cons_eq_none.mp ht
  obtain ⟨v2, h2, ht⟩ := Step.run_cons_eq_none.mp ht
  obtain ⟨v3, h3, ht⟩ := Step.run_cons_eq_none.mp ht
  obtain ⟨v4, h4, ht⟩ := Step.run_cons_eq_none.mp ht
  cases ht
  have hway : v3.Way dir := fun p hp =>
    (Tree.makeDirs_spec h3).2.2 p _ ((Tree.makeDirs_spec h2).2.2 p _
      (Tree.makeDirs_way h1 hnone hp))
  -- a log at or above the directory would have been written over a directory
  have hlog : x.logAt dir = dir ++ [x.settings.logFileName] := by
    rcases Location.locate_join hd hn with hl | hl
    · exact hl
    · have hobs := (Step.apply_write h4).1
      simp only [Step.apply, hobs, hway _ hl] at h4
      cases h4
  obtain ⟨-, y, rfl⟩ := Step.apply_write h4
  exact ⟨hlog, hway.set hlog⟩

/-- Where nothing stood, a run that could be prepared has its log directly in its directory, and the
directory stays. -/
theorem execute_way (h : ∀ a, x.Does ⟨e, run, budget, dir.path⟩ a → a.Within dir)
    (hd : dir.Proper) (hn : '/' ∉ x.settings.logFileName.toList) (hnone : w.tree.find? dir = none)
    (hok : ∀ f, (x.execute e run budget dir w).1 ≠ .error (.file f)) :
    x.logAt dir = dir ++ [x.settings.logFileName] ∧
      (x.execute e run budget dir w).2.tree.Way dir := by
  obtain ⟨t, f, ht, he⟩ | ⟨t, w', lines, ht, he, hQ, -⟩ := execute_cases x e run budget dir w
  · exact absurd (by rw [he]) (hok f)
  · obtain ⟨hlog, hway⟩ := way_of_prepared hd hn hnone ht
    have hseen : w'.tree.Way dir := hQ (fun t => t.Way dir) (fun a ha => (h a ha).way) hway
    refine ⟨hlog, ?_⟩
    rw [he]
    dsimp only
    rcases writeLog_cases w'.tree (x.logAt dir) lines with hw | hw
    · rwa [hw]
    · obtain ⟨-, y, hset⟩ := Step.apply_write hw
      rw [hset]
      exact hseen.set hlog

end Executor

end SuiteBench
