import SuiteBench.CommandLine.LogFiles
import SuiteBench.Proofs.Benchmark.Attempts

/-!
# Proofs.CommandLine.LogFiles — what logging does to the tree

Opening the log files makes those that are missing, with the directories above them, and closing them
puts text at their end.  Nothing else in the tree is made, changed or removed.
-/

namespace SuiteBench

/-! ### Trees that differ by what was logged -/

/-- Whether a tree is another one with text put at the end of some files, each made with the directories
above it where nothing stood. -/
structure Tree.Logged (files : List Location) (t u : Tree) : Prop where
  kept : ∀ m e, t.find? m = some e → u.find? m = some e ∨
    m ∈ files ∧ ∃ c x more, e = .file c x ∧ u.find? m = some (.file (c ++ more) x)
  made : ∀ m, t.find? m = none → u.find? m = none ∨
    (m ∈ files ∧ ∃ c, u.find? m = some (.file c false)) ∨
    u.find? m = some .directory ∧ ∃ l ∈ files, m <+: l.dropLast

namespace Tree.Logged

variable {files files' : List Location} {t u v : Tree} {l m : Location}

theorem refl (t : Tree) : Logged [] t t := ⟨fun _ _ h => .inl h, fun _ h => .inl h⟩

theorem mono (h : Logged files t u) (hs : ∀ l ∈ files, l ∈ files') : Logged files' t u where
  kept m e he := (h.kept m e he).imp_right fun ⟨hm, hmore⟩ => ⟨hs m hm, hmore⟩
  made m hn := by
    rcases h.made m hn with hu | ⟨hm, hu⟩ | ⟨hu, l, hl, hml⟩
    · exact .inl hu
    · exact .inr (.inl ⟨hs m hm, hu⟩)
    · exact .inr (.inr ⟨hu, l, hs l hl, hml⟩)

theorem trans (h : Logged files t u) (h' : Logged files u v) : Logged files t v where
  kept m e he := by
    rcases h.kept m e he with hu | ⟨hm, c, x, more, rfl, hu⟩
    · exact h'.kept m e hu
    · rcases h'.kept m _ hu with hv | ⟨-, c', x', more', hc', hv⟩
      · exact .inr ⟨hm, c, x, more, rfl, hv⟩
      · cases hc'
        exact .inr ⟨hm, c, x, more ++ more', rfl, by rw [hv, ByteArray.append_assoc]⟩
  made m hn := by
    rcases h.made m hn with hu | ⟨hm, c, hu⟩ | ⟨hu, l, hl, hml⟩
    · exact h'.made m hu
    · rcases h'.kept m _ hu with hv | ⟨-, c', x', more', hc', hv⟩
      · exact .inr (.inl ⟨hm, c, hv⟩)
      · cases hc'
        exact .inr (.inl ⟨hm, _, hv⟩)
    · rcases h'.kept m _ hu with hv | ⟨-, c', x', more', hc', hv⟩
      · exact .inr (.inr ⟨hv, l, hl, hml⟩)
      · cases hc'

/-- Below a location that no log file stands below nothing differs. -/
theorem find?_eq (h : Logged files t u) {d : Location} (hd : ∀ l ∈ files, ¬ d <+: l) (hm : d <+: m) :
    u.find? m = t.find? m := by
  cases ht : t.find? m with
  | some e =>
    rcases h.kept m e ht with hu | ⟨hmem, -⟩
    · exact hu
    · exact absurd hm (hd m hmem)
  | none =>
    rcases h.made m ht with hu | ⟨hmem, -⟩ | ⟨-, l, hl, hml⟩
    · exact hu
    · exact absurd hm (hd m hmem)
    · exact absurd (hm.trans (hml.trans (List.dropLast_prefix l))) (hd l hl)

/-- The directories above a log file are made. -/
theorem of_makeDirs (h : t.makeDirs l.dropLast = .ok u) : Logged [l] t u where
  kept m e he := .inl ((makeDirs_spec h).2.2 m e he)
  made m hn := by
    by_cases hm : m <+: l.dropLast
    · by_cases hl : t.find? l.dropLast = none
      · exact .inr (.inr ⟨makeDirs_way h hl hm, l, List.mem_singleton_self l, hm⟩)
      · rw [makeDirs_eq_self h hl]
        exact .inl hn
    · exact .inl (((makeDirs_spec h).2.1 m hm).trans hn)

/-- A log file is made. -/
theorem of_write {c : ByteArray} (hn : t.find? l = none) (h : (Step.write l c).apply t = .ok u) :
    Logged [l] t u := by
  have h0 : l ≠ [] := by
    rintro rfl
    cases hn
  simp only [Step.apply, hn] at h
  split at h
  · cases h
  · cases h
    refine ⟨fun m e he => .inl ?_, fun m hm => ?_⟩
    · rw [find?_set_of_ne t _ (by rintro rfl; rw [hn] at he; cases he), he]
    · by_cases hml : m = l
      · subst hml
        exact .inr (.inl ⟨List.mem_singleton_self m, c, find?_set t _ h0⟩)
      · exact .inl ((find?_set_of_ne t _ hml).trans hm)

/-- Text is put at the end of a log file. -/
theorem of_extend {c more : ByteArray} {x : Bool} (hf : t.find? l = some (.file c x))
    (h : (Step.write l (c ++ more)).apply t = .ok u) : Logged [l] t u := by
  have h0 : l ≠ [] := by
    rintro rfl
    cases hf
  simp only [Step.apply, hf] at h
  split at h
  · cases h
  · cases h
    refine ⟨fun m e he => ?_, fun m hm => .inl ?_⟩
    · by_cases hml : m = l
      · subst hml
        cases hf.symm.trans he
        exact .inr ⟨List.mem_singleton_self m, c, x, more, rfl, find?_set t _ h0⟩
      · exact .inl ((find?_set_of_ne t _ hml).trans he)
    · rw [find?_set_of_ne t _ (by rintro rfl; rw [hf] at hm; cases hm), hm]

/-- A step that only logs when it succeeds only logs: when it fails it does nothing. -/
theorem of_perform {w : World} {s : Step}
    (h : ∀ u, s.apply w.tree = .ok u → Logged files w.tree u) :
    Logged files w.tree (w.perform [s]).1.tree := by
  show Logged files w.tree (Step.run w.tree [s]).1
  cases hs : s.apply w.tree with
  | ok u => simpa [Step.run, hs] using h u hs
  | error e => simpa [Step.run, hs] using (refl w.tree).mono (by simp)

end Tree.Logged

namespace CommandLine

variable {cwd : Location} {w w' : World} {files : List LogFile} {targets : List LogTarget}

/-- Where the file of a target stands, for a log that is opened at a moment. -/
def logLocation? (cwd : Location) (now : Moment) : LogTarget → Option Location
  | .console _ => none
  | .file path _ rotation => (Path.fileName? ⟨path⟩).map fun name =>
    (LogFile.directory ⟨path⟩).locate cwd ++ [LogFile.dated name rotation now]

/-- Where the log files of some targets stand. -/
def logLocations (cwd : Location) (now : Moment) (targets : List LogTarget) : List Location :=
  targets.filterMap (logLocation? cwd now)

theorem logged_openAt {path : String} {level : Option LogLevel} {rotation : LogRotation} {f : LogFile}
    (h : LogFile.openAt cwd ⟨path⟩ level rotation w = (.ok f, w')) :
    logLocation? cwd w.now (.file path level rotation) = some f.location ∧ w'.now = w.now ∧
      w.tree.Logged [f.location] w'.tree := by
  rw [LogFile.openAt] at h
  split at h
  · cases h
  · next name hname =>
    simp only at h
    split at h
    · cases h
    · next v hp =>
      obtain ⟨hrun, hv⟩ := World.perform_eq.mp hp
      have hloc : logLocation? cwd w.now (.file path level rotation) = some
          ((LogFile.directory ⟨path⟩).locate cwd ++ [LogFile.dated name rotation w.now]) := by
        rw [logLocation?, hname, Option.map_some]
      have hnow : v.now = w.now := by rw [hv]
      obtain ⟨u, hmake, hnil⟩ := Step.run_cons_eq_none.mp hrun
      cases hnil
      rw [hnow] at h
      generalize hl : (LogFile.directory ⟨path⟩).locate cwd ++ [LogFile.dated name rotation w.now] = l
        at h hloc
      have hdirs : w.tree.Logged [l] v.tree :=
        .of_makeDirs (by rw [← hl, List.dropLast_concat]; exact hmake)
      split at h
      · cases h
        exact ⟨hloc, hnow, hdirs⟩
      · next hnone =>
        cases h
        refine ⟨hloc, hnow, hdirs.trans (.of_perform fun u hu => .of_write ?_ hu)⟩
        simpa using hnone

theorem logged_openLogs (h : openLogs cwd targets w = (.ok files, w')) :
    files.map (·.location) = logLocations cwd w.now targets ∧
      w.tree.Logged (files.map (·.location)) w'.tree := by
  induction targets generalizing w files with
  | nil =>
    cases h
    exact ⟨rfl, .refl _⟩
  | cons target targets ih =>
    cases target with
    | console level =>
      rw [logLocations, List.filterMap_cons_none rfl]
      exact ih h
    | file path level rotation =>
      rw [openLogs] at h
      split at h
      · cases h
      · next f v hf =>
        obtain ⟨hloc, hnow, hopen⟩ := logged_openAt hf
        cases hrest : openLogs cwd targets v with
        | mk outcome v' =>
          rw [hrest] at h
          cases outcome with
          | error e => cases h
          | ok files' =>
            cases h
            obtain ⟨hlocs, hlogged⟩ := ih hrest
            rw [logLocations, List.filterMap_cons_some hloc, List.map_cons, hlocs, hnow]
            refine ⟨rfl, (hopen.mono ?_).trans (hlogged.mono ?_)⟩
            · simp
            · rw [hlocs, hnow]
              exact fun l hl => List.mem_cons_of_mem _ hl

theorem logged_append (filter : LogFilter) (lines : List LogLine) (w : World) (f : LogFile) :
    w.tree.Logged [f.location] (f.append filter lines w).tree := by
  rw [LogFile.append]
  split
  · next c x hf =>
    simp only
    split
    · exact (Tree.Logged.refl _).mono (by simp)
    · exact .of_perform fun u hu => .of_extend hf hu
  · exact (Tree.Logged.refl _).mono (by simp)

theorem logged_closeLogs (filter : LogFilter) (files : List LogFile) (w : World) :
    w.tree.Logged (files.map (·.location)) (closeLogs filter files w).tree := by
  rw [closeLogs]
  generalize w.log = lines
  induction files generalizing w with
  | nil => exact .refl _
  | cons f files ih =>
    rw [List.foldl_cons]
    refine ((logged_append filter lines w f).mono ?_).trans ((ih _).mono ?_)
    · simp
    · simp +contextual

end CommandLine

end SuiteBench
