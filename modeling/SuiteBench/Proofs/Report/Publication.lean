import SuiteBench.Proofs.Store.Rewriting
import SuiteBench.Report.Outputs

/-!
# Proofs.Report.Publication — what writing reports does to a tree

A report is a list of directories to make and of files to replace.  Writing it changes nothing else,
each file holds what was written to it last, and writing the same again succeeds and changes nothing.
-/

namespace SuiteBench

/-- Whether the same directories and the same files with the same contents stand in two trees. -/
def Tree.SameContents (t u : Tree) : Prop :=
  ∀ l, (u.find? l).map Entry.content? = (t.find? l).map Entry.content?

namespace Report

/-- Something that a report puts into a results tree. -/
inductive Output where
  | directory (l : Location)
  | file (f : OutputFile)

namespace Output

/-- The steps that put it there. -/
def steps : Output → List Step
  | directory l => [.makeDirs l]
  | file f => f.steps

/-- The locations of the files among some outputs. -/
def fileLocations : List Output → List Location
  | [] => []
  | directory _ :: outs => fileLocations outs
  | file f :: outs => f.location :: fileLocations outs

/-- The locations of the directories among some outputs. -/
def dirLocations : List Output → List Location
  | [] => []
  | directory l :: outs => l :: dirLocations outs
  | file _ :: outs => dirLocations outs

/-- What is written to a location last. -/
def lastContent? (l : Location) : List Output → Option ByteArray
  | [] => none
  | directory _ :: outs => lastContent? l outs
  | file f :: outs => (lastContent? l outs).or (if f.location = l then some f.content else none)

variable {outs outs' : List Output} {l m : Location} {t u : Tree} {c : ByteArray}

theorem fileLocations_append :
    fileLocations (outs ++ outs') = fileLocations outs ++ fileLocations outs' := by
  induction outs with
  | nil => rfl
  | cons o outs ih => cases o <;> simp [fileLocations, ih]

theorem dirLocations_append :
    dirLocations (outs ++ outs') = dirLocations outs ++ dirLocations outs' := by
  induction outs with
  | nil => rfl
  | cons o outs ih => cases o <;> simp [dirLocations, ih]

theorem fileLocations_map (fs : List OutputFile) : fileLocations (fs.map file) = fs.map (·.location) := by
  induction fs with
  | nil => rfl
  | cons f fs ih => simp [fileLocations, ih]

theorem dirLocations_map (fs : List OutputFile) : dirLocations (fs.map file) = [] := by
  induction fs with
  | nil => rfl
  | cons f fs ih => simpa [dirLocations] using ih

theorem flatMap_steps_map (fs : List OutputFile) :
    (fs.map file).flatMap steps = fs.flatMap OutputFile.steps := List.flatMap_map ..

theorem lastContent?_append :
    lastContent? l (outs ++ outs') = (lastContent? l outs').or (lastContent? l outs) := by
  induction outs with
  | nil => simp [lastContent?]
  | cons o outs ih => cases o <;> simp [lastContent?, ih, Option.or_assoc]

theorem mem_fileLocations_iff : l ∈ fileLocations outs ↔ ∃ c, lastContent? l outs = some c := by
  induction outs with
  | nil => simp [fileLocations, lastContent?]
  | cons o outs ih =>
    cases o with
    | directory d => exact ih
    | file f =>
      rw [fileLocations, List.mem_cons, ih, lastContent?]
      cases hc : lastContent? l outs with
      | some c => simp
      | none => by_cases hl : f.location = l <;> simp [hl, Ne.symm]

theorem lastContent?_eq_none (h : l ∉ fileLocations outs) : lastContent? l outs = none := by
  cases hc : lastContent? l outs with
  | none => rfl
  | some c => exact absurd (mem_fileLocations_iff.mpr ⟨c, hc⟩) h

/-- Whether outputs do not get in each other's way: no hidden neighbour of a file is one of the files or
on the way to a directory. -/
structure Compatible (outs : List Output) : Prop where
  ne_nil : ∀ l ∈ fileLocations outs, l ≠ []
  hidden : ∀ l ∈ fileLocations outs, ∀ m ∈ fileLocations outs, Step.hidden l ≠ m
  way : ∀ l ∈ fileLocations outs, ∀ d ∈ dirLocations outs, ¬ Step.hidden l <+: d

theorem Compatible.mono (h : Compatible outs') (hf : fileLocations outs ⊆ fileLocations outs')
    (hd : dirLocations outs ⊆ dirLocations outs') : Compatible outs where
  ne_nil l hl := h.ne_nil l (hf hl)
  hidden l hl m hm := h.hidden l (hf hl) m (hf hm)
  way l hl d hm := h.way l (hf hl) d (hd hm)

theorem Compatible.tail {o : Output} (h : Compatible (o :: outs)) : Compatible outs := by
  cases o with
  | directory d => exact h.mono (fun _ hl => hl) fun _ hm => List.mem_cons_of_mem _ hm
  | file f => exact h.mono (fun _ hl => List.mem_cons_of_mem _ hl) fun _ hm => hm

/-! ### Writing -/

/-- Writing outputs replaces their files and makes their directories. -/
theorem rewrites_run (hne : ∀ l ∈ fileLocations outs, l ≠ []) (ht : t.Sound)
    (h : Step.run t (outs.flatMap steps) = (u, none)) :
    t.Rewrites (fileLocations outs) (dirLocations outs) u ∧ u.Sound := by
  induction outs generalizing t with
  | nil =>
    cases h
    exact ⟨.refl _, ht⟩
  | cons o outs ih =>
    rw [List.flatMap_cons, Step.run_append_eq_none] at h
    obtain ⟨v, hv, h⟩ := h
    cases o with
    | directory d =>
      obtain ⟨w, hw, hrun⟩ := Step.run_cons_eq_none.mp hv
      cases hrun
      obtain ⟨hrest, hu⟩ := ih hne (Tree.sound_makeDirs ht hw) h
      exact ⟨(Tree.Rewrites.of_makeDirs hw).trans hrest, hu⟩
    | file f =>
      have hf : f.location ≠ [] := hne _ List.mem_cons_self
      have hsound := Step.sound_replace ht hf hv
      obtain ⟨hrest, hu⟩ := ih (fun l hl => hne l (List.mem_cons_of_mem _ hl)) hsound h
      exact ⟨(Tree.Rewrites.of_replace ht hf hv).trans hrest, hu⟩

/-- What stands in a tree once outputs were written: each file with what was written to it last, its
hidden neighbour gone, and the directories. -/
structure InPlace (outs : List Output) (u : Tree) : Prop where
  files : ∀ l c, lastContent? l outs = some c → ∃ x, u.find? l = some (.file c x)
  hidden : ∀ l ∈ fileLocations outs, u.find? (Step.hidden l) = none
  directories : ∀ d ∈ dirLocations outs, u.find? d = some .directory

theorem InPlace.directory {d : Location} (h : InPlace outs u) (hd : u.find? d = some .directory) :
    InPlace (directory d :: outs) u where
  files := h.files
  hidden := h.hidden
  directories m hm := by
    rcases List.mem_cons.mp hm with rfl | hm
    · exact hd
    · exact h.directories m hm

/-- A file that was replaced before the others stays as it was written unless one of them replaced it
again. -/
theorem InPlace.file {f : OutputFile} {v : Tree} (h : InPlace outs u)
    (hc : Compatible (.file f :: outs)) (hv : v.Rewrites (fileLocations outs) (dirLocations outs) u)
    (hread : v.read f.location = .ok f.content) (hgone : v.find? (Step.hidden f.location) = none) :
    InPlace (.file f :: outs) u where
  files l c hl := by
    rw [lastContent?] at hl
    cases hlast : lastContent? l outs with
    | some c' =>
      rw [hlast] at hl
      cases hl
      exact h.files l c hlast
    | none =>
      rw [hlast, Option.none_or] at hl
      obtain ⟨rfl, rfl⟩ : f.location = l ∧ f.content = c := by simpa using hl
      obtain ⟨-, x, hx⟩ := Tree.read_eq_ok_iff.mp hread
      refine ⟨x, hv.find?_of_some ⟨fun hm => ?_, fun hm => ?_⟩ hx⟩
      · obtain ⟨c', hc'⟩ := mem_fileLocations_iff.mp hm
        rw [hlast] at hc'
        cases hc'
      · obtain ⟨m, hm, he⟩ := List.mem_map.mp hm
        exact hc.hidden m (List.mem_cons_of_mem _ hm) _ List.mem_cons_self he
  hidden l hl := by
    by_cases hin : Step.hidden l ∈ (fileLocations outs).map Step.hidden
    · obtain ⟨m, hm, he⟩ := List.mem_map.mp hin
      rw [← he]
      exact h.hidden m hm
    · rcases List.mem_cons.mp hl with rfl | hl'
      · have haside : Tree.Aside (fileLocations outs) (Step.hidden f.location) :=
          ⟨fun hm => hc.hidden _ hl _ (List.mem_cons_of_mem _ hm) rfl, hin⟩
        rcases hv.made _ haside hgone with hnone | ⟨⟨d, hd, hp⟩, -⟩
        · exact hnone
        · exact absurd hp (hc.way _ hl d hd)
      · exact absurd (List.mem_map_of_mem hl') hin
  directories := h.directories

/-- Once outputs were written, they stand in the tree. -/
theorem inPlace_run (hc : Compatible outs) (ht : t.Sound)
    (h : Step.run t (outs.flatMap steps) = (u, none)) : InPlace outs u := by
  induction outs generalizing t with
  | nil =>
    refine ⟨fun l c hl => ?_, fun l hl => ?_, fun d hd => ?_⟩
    · cases hl
    · cases hl
    · cases hd
  | cons o outs ih =>
    rw [List.flatMap_cons, Step.run_append_eq_none] at h
    obtain ⟨v, hv, h⟩ := h
    cases o with
    | directory d =>
      obtain ⟨w, hw, hrun⟩ := Step.run_cons_eq_none.mp hv
      cases hrun
      have hsound := Tree.sound_makeDirs ht hw
      have hkept := (rewrites_run hc.tail.ne_nil hsound h).1
      have hdir := (Tree.makeDirs_spec hw).1
      exact (ih hc.tail hsound h).directory
        (hkept.find?_of_some (hkept.aside_of_isDirectory hdir) hdir)
    | file f =>
      have hf : f.location ≠ [] := hc.ne_nil _ List.mem_cons_self
      have hsound := Step.sound_replace ht hf hv
      obtain ⟨hread, hgone⟩ := Step.run_replace hv hf
      exact (ih hc.tail hsound h).file hc (rewrites_run hc.tail.ne_nil hsound h).1 hread hgone

/-! ### Writing again -/

/-- Whether outputs stand in a tree already, whatever the files hold. -/
structure Ready (outs : List Output) (t : Tree) : Prop where
  files : ∀ l ∈ fileLocations outs, t.isFile l = true
  hidden : ∀ l ∈ fileLocations outs, t.find? (Step.hidden l) = none
  directories : ∀ d ∈ dirLocations outs, t.find? d = some .directory

theorem InPlace.ready (h : InPlace outs' u) (hf : fileLocations outs ⊆ fileLocations outs')
    (hd : dirLocations outs ⊆ dirLocations outs') : Ready outs u where
  files l hl := by
    obtain ⟨c, hc⟩ := mem_fileLocations_iff.mp (hf hl)
    obtain ⟨x, hx⟩ := h.files l c hc
    exact Tree.isFile_iff.mpr ⟨c, x, hx⟩
  hidden l hl := h.hidden l (hf hl)
  directories d hm := h.directories d (hd hm)

/-- Replacing a file leaves outputs where they stand. -/
theorem Ready.replace (h : Ready outs t) {f : OutputFile} (hc : Compatible (.file f :: outs))
    (ht : t.Sound) (hv : Step.run t f.steps = (u, none)) : Ready outs u := by
  have hf : f.location ≠ [] := hc.ne_nil _ List.mem_cons_self
  have hkept := Tree.Rewrites.of_replace ht hf hv
  obtain ⟨hread, hgone⟩ := Step.run_replace hv hf
  refine ⟨fun l hl => ?_, fun l hl => ?_, fun d hd => ?_⟩
  · by_cases hlf : l = f.location
    · obtain ⟨-, x, hx⟩ := Tree.read_eq_ok_iff.mp hread
      exact Tree.isFile_iff.mpr ⟨_, x, hlf ▸ hx⟩
    · obtain ⟨c, x, hx⟩ := Tree.isFile_iff.mp (h.files l hl)
      have hne := hc.hidden _ List.mem_cons_self l (List.mem_cons_of_mem _ hl)
      exact Tree.isFile_iff.mpr
        ⟨c, x, hkept.find?_of_some ⟨by simpa using hlf, by simpa using hne.symm⟩ hx⟩
  · by_cases hlf : Step.hidden l = Step.hidden f.location
    · rw [hlf, hgone]
    · have hne := hc.hidden l (List.mem_cons_of_mem _ hl) _ List.mem_cons_self
      rcases hkept.find?_cases ⟨by simpa using hne, by simpa using hlf⟩ with hsame | ⟨⟨d, hd, -⟩, -⟩
      · rw [hsame, h.hidden l hl]
      · cases hd
  · exact hkept.find?_of_some (hkept.aside_of_isDirectory (h.directories d hd)) (h.directories d hd)

/-- Outputs that stand in a tree can be written again. -/
theorem Ready.run (h : Ready outs t) (hc : Compatible outs) (ht : t.Sound) :
    ∃ u, Step.run t (outs.flatMap steps) = (u, none) := by
  induction outs generalizing t with
  | nil => exact ⟨t, rfl⟩
  | cons o outs ih =>
    cases o with
    | directory d =>
      have hd : t.find? d = some .directory := h.directories d List.mem_cons_self
      have hmake : t.makeDirs d = .ok t := by rw [Tree.makeDirs_eq, hd]
      have hrest : Ready outs t := ⟨h.files, h.hidden, fun d hd =>
        h.directories d (List.mem_cons_of_mem _ hd)⟩
      obtain ⟨u, hu⟩ := ih hrest hc.tail ht
      exact ⟨u, Step.run_append_eq_none.mpr ⟨t, Step.run_cons_eq_none.mpr ⟨t, hmake, rfl⟩, hu⟩⟩
    | file f =>
      have hf : f.location ≠ [] := hc.ne_nil _ List.mem_cons_self
      have hfile := h.files f.location List.mem_cons_self
      obtain ⟨b, x, hx⟩ := Tree.isFile_iff.mp hfile
      obtain ⟨v, hv⟩ := Step.replace_succeeds (t := t) hf (ht.obstacle? (by simp [hx]))
        (by simp [Tree.isDirectory, hx, Entry.isDirectory])
        (by simp [Tree.isDirectory, h.hidden f.location List.mem_cons_self]) f.content
      have hsound := Step.sound_replace ht hf hv
      have hrest : Ready outs t := ⟨fun l hl => h.files l (List.mem_cons_of_mem _ hl),
        fun l hl => h.hidden l (List.mem_cons_of_mem _ hl), h.directories⟩
      obtain ⟨u, hu⟩ := ih (hrest.replace hc ht hv) hc.tail hsound
      exact ⟨u, Step.run_append_eq_none.mpr ⟨v, hv, hu⟩⟩

/-- Where outputs were written, writing some of them again with what was written last succeeds and
changes nothing. -/
theorem InPlace.again (h : InPlace outs' u) (hu : u.Sound) (hc : Compatible outs)
    (hf : fileLocations outs ⊆ fileLocations outs')
    (hd : dirLocations outs ⊆ dirLocations outs')
    (hlast : ∀ l ∈ fileLocations outs, lastContent? l outs = lastContent? l outs') :
    ∃ v, Step.run u (outs.flatMap steps) = (v, none) ∧ u.SameContents v := by
  obtain ⟨v, hv⟩ := (h.ready hf hd).run hc hu
  have hkept := (rewrites_run hc.ne_nil hu hv).1
  have hwritten := inPlace_run hc hu hv
  refine ⟨v, hv, fun l => ?_⟩
  by_cases hl : l ∈ fileLocations outs
  · obtain ⟨c, hl'⟩ := mem_fileLocations_iff.mp hl
    obtain ⟨x, hx⟩ := hwritten.files l c hl'
    obtain ⟨y, hy⟩ := h.files l c (hlast l hl ▸ hl')
    rw [hx, hy]
    rfl
  by_cases hh : l ∈ (fileLocations outs).map Step.hidden
  · obtain ⟨m, hm, rfl⟩ := List.mem_map.mp hh
    rw [hwritten.hidden m hm, h.hidden m (hf hm)]
  rcases hkept.find?_cases ⟨hl, hh⟩ with hsame | ⟨⟨d, hdm, hp⟩, hnone, -⟩
  · rw [hsame]
  · have hdir := h.directories d (hd hdm)
    by_cases hld : l = d
    · rw [hld, hdir] at hnone
      cases hnone
    · rw [hu d (by simp [hdir]) l hp hld] at hnone
      cases hnone

end Output

end Report

end SuiteBench
