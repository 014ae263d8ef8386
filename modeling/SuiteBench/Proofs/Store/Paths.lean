import SuiteBench.Proofs.Decimal.Digits
import SuiteBench.Proofs.Store.Steps
import SuiteBench.Proofs.Text.Parts
import SuiteBench.Store.Repository

/-!
# Proofs.Store.Paths — where directories lie and where a path leads

The names of endpoint and run directories carry their numbers, so that two keys never have the same
directory and the directory of one run never lies in that of another.  The absolute path of a location
leads back to the location when its names are proper ones, and a bare name joined to it leads to a file in
that directory or no further than the directory itself.
-/

namespace SuiteBench

namespace Layout

/-! ### The directories of runs -/

theorem stem_injective (stem : String) {a b : Nat}
    (h : stem ++ Decimal.padded 2 a = stem ++ Decimal.padded 2 b) : a = b :=
  Decimal.padded_injective ((String.append_right_inj stem).mp h)

theorem runLocation_injective {root : Location} {k k' : RunKey}
    (h : runLocation root k = runLocation root k') : k = k' := by
  have hl := List.append_cancel_left h
  simp only [List.cons.injEq, and_true] at hl
  rcases k with ⟨e, n⟩
  rcases k' with ⟨e', n'⟩
  obtain rfl := stem_injective _ hl.1
  obtain rfl := stem_injective _ hl.2
  rfl

theorem length_runLocation (root : Location) (k : RunKey) :
    (runLocation root k).length = root.length + 2 := by
  simp [runLocation]

/-- The directories of two runs are not nested. -/
theorem eq_of_runLocation_prefix {root l : Location} {k k' : RunKey}
    (h : runLocation root k <+: l) (h' : runLocation root k' <+: l) : k = k' := by
  have hl : (runLocation root k).length = (runLocation root k').length := by
    rw [length_runLocation, length_runLocation]
  exact runLocation_injective ((List.prefix_of_prefix_length_le h h' hl.le).eq_of_length hl)

/-! ### Numbers in names -/

/-- A name carries its number behind the stem and an underscore. -/
theorem number?_eq_some {name stem : String} {n : Nat} (h : number? name stem = some n) :
    0 < n ∧ ∃ rest, name.toList = stem.toList ++ '_' :: rest ∧
      Decimal.readNat Decimal.max32 rest = .ok n := by
  simp only [number?, Option.bind_eq_bind, Option.bind_eq_some_iff] at h
  obtain ⟨rest, h1, rest', h2, h3⟩ := h
  split at h3
  · next m hm =>
    split at h3
    · next hpos =>
      cases h3
      refine ⟨hpos, rest', ?_, hm⟩
      rw [Text.stripFront?_eq_some_iff.mp h1, Text.stripFront?_eq_some_iff.mp h2]
      rfl
    · cases h3
  · cases h3

/-- A name with a number behind the stem carries no other. -/
theorem number?_padded {name stem : String} {m n : Nat}
    (hname : name.toList = stem.toList ++ '_' :: (Decimal.padded 2 m).toList)
    (h : number? name stem = some n) : n = m := by
  obtain ⟨-, rest, hrest, hn⟩ := number?_eq_some h
  obtain rfl : (Decimal.padded 2 m).toList = rest :=
    (List.cons.inj (List.append_cancel_left (hname.symm.trans hrest))).2
  have hv := (Decimal.readNat_eq_ok hn).2 fun c hc => Decimal.isDigit_of_mem_padded hc
  rw [hv, Decimal.digitsValue_padded]

/-- A number behind the stem is read as it was written. -/
theorem number?_of_padded {name stem : String} {n : Nat} (hpos : 0 < n) (hn : n ≤ Decimal.max32)
    (hname : name.toList = stem.toList ++ '_' :: (Decimal.padded 2 n).toList) :
    number? name stem = some n := by
  have hstem : Text.stripFront? stem.toList name.toList = some ('_' :: (Decimal.padded 2 n).toList) :=
    Text.stripFront?_eq_some_iff.mpr hname
  have hbar : Text.stripFront? ['_'] ('_' :: (Decimal.padded 2 n).toList) =
      some (Decimal.padded 2 n).toList := Text.stripFront?_eq_some_iff.mpr rfl
  simp only [number?, hstem, hbar, Option.bind_eq_bind, Option.bind_some, Decimal.readNat_padded hn,
    if_pos hpos]

/-- The name of an endpoint's directory carries the number of the endpoint. -/
theorem number?_own_endpointName {n : Nat} (hpos : 0 < n) (hn : n ≤ Decimal.max32) :
    number? (endpointName n) "endpoint" = some n :=
  number?_of_padded hpos hn (by simp [endpointName])

theorem number?_own_runName {n : Nat} (hpos : 0 < n) (hn : n ≤ Decimal.max32) :
    number? (runName n) "run" = some n :=
  number?_of_padded hpos hn (by simp [runName])

/-- The name that a run is given carries its number. -/
theorem number?_runName {m n : Nat} (h : number? (runName m) "run" = some n) : n = m :=
  number?_padded (by simp [runName]) h

/-- The name that an endpoint is given carries its number. -/
theorem number?_endpointName {m n : Nat} (h : number? (endpointName m) "endpoint" = some n) :
    n = m :=
  number?_padded (by simp [endpointName]) h

end Layout

/-! ### Proper names -/

/-- Whether a text is the name of one thing in a directory. -/
def IsName (s : String) : Prop := s ≠ "" ∧ s ≠ "." ∧ s ≠ ".." ∧ '/' ∉ s.toList

instance (s : String) : Decidable (IsName s) := inferInstanceAs (Decidable (_ ∧ _))

/-- Whether every name of a location is a proper one. -/
def Location.Proper (l : Location) : Prop := ∀ s ∈ l, IsName s

instance (l : Location) : Decidable l.Proper := inferInstanceAs (Decidable (∀ s ∈ l, IsName s))

namespace Location

/-- The texts, each with a slash in front. -/
def slashed (l : List String) : List Char := l.flatMap fun s => '/' :: s.toList

theorem intercalate_toList (a : String) (l : List String) :
    (String.intercalate "/" (a :: l)).toList = a.toList ++ slashed l := by
  induction l generalizing a with
  | nil => simp [slashed]
  | cons b l ih =>
    rw [String.intercalate_cons_cons, String.toList_append, String.toList_append, ih b]
    simp [slashed]

/-- Pieces between slashes are the texts, after an empty one. -/
theorem splitOnP_slashed {l : List String} (h : ∀ s ∈ l, '/' ∉ s.toList) :
    ∀ {cs : List Char}, '/' ∉ cs →
      Text.splitOnP (· == '/') (cs ++ slashed l) = cs :: l.map String.toList := by
  have hsep : ∀ {cs : List Char}, '/' ∉ cs → ∀ c ∈ cs, (c == '/') = false := fun hcs c hc =>
    beq_eq_false_iff_ne.mpr fun he => hcs (he ▸ hc)
  induction l with
  | nil =>
    intro cs hcs
    rw [slashed, List.flatMap_nil, List.append_nil, Text.splitOnP_of_none (hsep hcs)]
    rfl
  | cons s l ih =>
    intro cs hcs
    have ih' := ih (fun s' hs' => h s' (List.mem_cons_of_mem _ hs')) (h s List.mem_cons_self)
    rw [show slashed (s :: l) = '/' :: (s.toList ++ slashed l) by simp [slashed],
      Text.splitOnP_append (hsep hcs) (by rfl), ih', List.map_cons]

theorem getLast?_slashed {l : List String} (hl : l ≠ []) (h : Location.Proper l) :
    (slashed l).getLast? ≠ some '/' := by
  obtain ⟨l', s, rfl⟩ := (List.eq_nil_or_concat l).resolve_left hl
  rw [List.concat_eq_append] at h ⊢
  have hs := h s (by simp)
  have hne : s.toList ≠ [] := fun he => hs.1 (by simpa using he)
  have hcat : slashed (l' ++ [s]) = (slashed l' ++ ['/']) ++ s.toList := by simp [slashed]
  rw [hcat, List.getLast?_append_of_ne_nil _ hne]
  exact fun hc => hs.2.2.2 (List.mem_of_getLast? hc)

/-- The text of a name joined to the path of a location. -/
theorem join_path {l : Location} (h : l.Proper) {name : String} (hn : '/' ∉ name.toList) :
    (l.path.join name).text.toList = slashed (l ++ [name]) := by
  have habs : ¬ (name.toList.head? == some '/') = true := by
    intro hh
    exact hn (List.mem_of_head? (by simpa using hh))
  rw [Path.join, if_neg habs]
  cases l with
  | nil => simp [path, slashed]
  | cons a l =>
    have hpath : (Location.path (a :: l)).text.toList = slashed (a :: l) := by
      rw [path, String.toList_append, intercalate_toList]
      simp [slashed]
    have hlast := getLast?_slashed (List.cons_ne_nil a l) h
    rw [← hpath] at hlast
    rw [if_neg]
    · simp only [String.toList_append, hpath]
      simp [slashed]
    · have hne : (Location.path (a :: l)).text.isEmpty = false := by
        simp [path]
      simp [hne, hlast]

theorem follow_append {start l rest : Location} (h : ∀ s ∈ l, s ≠ "..") :
    Path.follow start (l ++ rest) = Path.follow (start ++ l) rest := by
  induction l generalizing start with
  | nil => simp
  | cons s l ih =>
    have hs := h s List.mem_cons_self
    rw [List.cons_append, Path.follow]
    · rw [ih fun s' hs' => h s' (List.mem_cons_of_mem _ hs'), List.append_assoc]
      rfl
    · exact hs

/-- Where a bare name leads from a directory: into it, or no further than to it. -/
theorem locate_join {l : Location} (h : l.Proper) {name : String} (hn : '/' ∉ name.toList) :
    (l.path.join name).locate [] = l ++ [name] ∨ (l.path.join name).locate [] <+: l := by
  have hslash : ∀ s ∈ l ++ [name], '/' ∉ s.toList := by
    intro s hs
    rcases List.mem_append.mp hs with hs | hs
    · exact (h s hs).2.2.2
    · rwa [List.mem_singleton.mp hs]
  have habs : (l.path.join name).isAbsolute = true := by
    rw [Path.isAbsolute, join_path h hn]
    cases l <;> simp [slashed]
  have hcomp : (l.path.join name).components = l ++ [name].filter fun s => s != "" && s != "." := by
    have hmap : ((l ++ [name]).map String.toList).map String.ofList = l ++ [name] := by
      rw [List.map_map]
      exact (List.map_congr_left fun s _ => String.ofList_toList).trans (List.map_id _)
    have hl : l.filter (fun s => s != "" && s != ".") = l :=
      List.filter_eq_self.mpr fun s hs => by simp [(h s hs).1, (h s hs).2.1]
    have hsplit := splitOnP_slashed hslash (List.not_mem_nil (a := '/'))
    rw [List.nil_append] at hsplit
    rw [Path.components, join_path h hn, hsplit, List.map_cons, hmap, List.filter_cons,
      if_neg (by decide), List.filter_append, hl]
  rw [Path.locate, if_pos habs, hcomp, follow_append fun s hs => (h s hs).2.2.1, List.nil_append]
  by_cases hkeep : (name != "" && name != ".") = true
  · rw [List.filter_cons, if_pos hkeep, List.filter_nil]
    by_cases hup : name = ".."
    · subst hup
      exact .inr (List.dropLast_prefix l)
    · rw [Path.follow]
      · exact .inl rfl
      · exact hup
  · rw [List.filter_cons, if_neg hkeep, List.filter_nil]
    exact .inr (List.prefix_refl l)

end Location

/-! ### Locations of paths -/

namespace Path

theorem follow_concat {start : Location} {name : String} (h : name ≠ "..") (cs : List String) :
    follow start (cs ++ [name]) = follow start cs ++ [name] := by
  induction cs generalizing start with
  | nil =>
    rw [List.nil_append, follow, follow, follow]
    exact h
  | cons s cs ih =>
    by_cases hup : s = ".."
    · subst hup
      exact ih
    · rw [List.cons_append, follow, follow]
      · exact ih
      · exact hup
      · exact hup

theorem components_name {name : String} (h : IsName name) : components ⟨name⟩ = [name] := by
  have hname : Text.splitOnP (· == '/') name.toList = [name.toList] :=
    Text.splitOnP_of_none fun c hc => beq_eq_false_iff_ne.mpr fun he => h.2.2.2 (he ▸ hc)
  rw [components, hname, List.map_singleton, String.ofList_toList]
  exact List.filter_eq_self.mpr fun s hs => by simp [List.mem_singleton.mp hs, h.1, h.2.1]

/-- A name behind a slash is the last component. -/
theorem components_concat {p q : Path} {name : String} (h : IsName name)
    (hp : p.text.toList = q.text.toList ++ '/' :: name.toList) :
    p.components = q.components ++ [name] := by
  rw [components, hp, Text.splitOnP_append_sep _ _ (by rfl), List.map_append, List.filter_append,
    ← components_name h]
  rfl

theorem components_of_slash {p q : Path} (hp : p.text.toList = q.text.toList ++ ['/']) :
    p.components = q.components := by
  rw [components, hp, Text.splitOnP_append_sep _ _ (by rfl), components, List.map_append,
    List.filter_append]
  simp [Text.splitOnP]

theorem components_join {name : String} (h : IsName name) (p : Path) :
    (p.join name).components = p.components ++ [name] := by
  have habs : ¬ (name.toList.head? == some '/') = true := fun hh =>
    h.2.2.2 (List.mem_of_head? (by simpa using hh))
  rw [join, if_neg habs]
  split
  · next hend =>
    rw [Bool.or_eq_true, beq_iff_eq] at hend
    rcases hend with hend | hend
    · have hp : p = ⟨""⟩ := by
        cases p
        simpa using hend
      subst hp
      exact components_name h
    · obtain ⟨cs, hcs⟩ := List.getLast?_eq_some_iff.mp hend
      rw [components_of_slash (p := p) (q := ⟨String.ofList cs⟩) (by simpa using hcs)]
      exact components_concat h (by simp [hcs])
  · exact components_concat h (by simp)

theorem isAbsolute_join {name : String} (h : IsName name) (p : Path) :
    (p.join name).isAbsolute = p.isAbsolute := by
  have habs : ¬ (name.toList.head? == some '/') = true := fun hh =>
    h.2.2.2 (List.mem_of_head? (by simpa using hh))
  rw [join, if_neg habs, isAbsolute, isAbsolute]
  by_cases hp : p.text = ""
  · rw [hp]
    simpa using habs
  · have hne : p.text.toList ≠ [] := by simpa using hp
    split
    · rw [String.toList_append, List.head?_append_of_ne_nil _ hne]
    · rw [String.toList_append, String.toList_append, List.append_assoc,
        List.head?_append_of_ne_nil _ hne]

/-- A name joined to a path leads into what the path names. -/
theorem locate_join {name : String} (h : IsName name) (cwd : Location) (p : Path) :
    (p.join name).locate cwd = p.locate cwd ++ [name] := by
  rw [locate, locate, isAbsolute_join h, components_join h, follow_concat h.2.2.1]

theorem proper_follow {start l : Location} (hs : start.Proper)
    (hl : ∀ s ∈ l, IsName s ∨ s = "..") : Location.Proper (follow start l) := by
  induction l generalizing start with
  | nil => exact hs
  | cons s l ih =>
    have hl' := fun s' hs' => hl s' (List.mem_cons_of_mem _ hs')
    by_cases hup : s = ".."
    · subst hup
      exact ih (fun s' hs' => hs s' (List.mem_of_mem_dropLast hs')) hl'
    · rw [follow]
      · refine ih (fun s' hs' => ?_) hl'
        rcases List.mem_append.mp hs' with hs' | hs'
        · exact hs s' hs'
        · rw [List.mem_singleton.mp hs']
          exact (hl s List.mem_cons_self).resolve_right hup
      · exact hup

/-- What a path names has proper names. -/
theorem proper_locate {cwd : Location} (h : cwd.Proper) (p : Path) :
    Location.Proper (p.locate cwd) := by
  refine proper_follow ?_ fun s hs => ?_
  · split
    · exact List.forall_mem_nil _
    · exact h
  · obtain ⟨hm, hkeep⟩ := List.mem_filter.mp hs
    obtain ⟨piece, hpiece, rfl⟩ := List.mem_map.mp hm
    have hslash : '/' ∉ (String.ofList piece).toList := fun hc => by
      rw [String.toList_ofList] at hc
      simpa using Text.notSep_of_mem_splitOnP piece hpiece '/' hc
    simp only [Bool.and_eq_true, bne_iff_ne, ne_eq] at hkeep
    by_cases hup : String.ofList piece = ".."
    · exact .inr hup
    · exact .inl ⟨hkeep.1, hkeep.2, hup, hslash⟩

end Path

namespace Layout

theorem isName_stem {stem : String} (h : IsName stem) (hs : stem.toList.head? ≠ some '.') (n : Nat) :
    IsName (stem ++ Decimal.padded 2 n) := by
  have hne : stem.toList ≠ [] := fun he => h.1 (by simpa using he)
  have hhead : (stem ++ Decimal.padded 2 n).toList.head? = stem.toList.head? := by
    rw [String.toList_append, List.head?_append_of_ne_nil _ hne]
  have hdot : ∀ s : String, s.toList.head? = some '.' → stem ++ Decimal.padded 2 n ≠ s := by
    rintro s hd rfl
    exact hs (hhead ▸ hd)
  refine ⟨fun he => ?_, hdot _ rfl, hdot _ rfl, fun hc => ?_⟩
  · rw [he] at hhead
    exact hne (List.head?_eq_none_iff.mp hhead.symm)
  · rw [String.toList_append] at hc
    rcases List.mem_append.mp hc with hc | hc
    · exact h.2.2.2 hc
    · exact absurd (Decimal.isDigit_of_mem_padded hc) (by decide)

theorem isName_endpointName (id : Nat) : IsName (endpointName id) :=
  isName_stem (by decide) (by decide) id

theorem isName_runName (n : Nat) : IsName (runName n) := isName_stem (by decide) (by decide) n

theorem proper_runLocation {root : Location} (h : root.Proper) (k : RunKey) :
    Location.Proper (runLocation root k) := by
  intro s hs
  rw [runLocation] at hs
  rcases List.mem_append.mp hs with hs | hs
  · exact h s hs
  · simp only [List.mem_cons, List.not_mem_nil, or_false] at hs
    rcases hs with rfl | rfl
    · exact isName_endpointName _
    · exact isName_runName _

/-- A name that carries a run's number is a proper one. -/
theorem isName_of_number? {name : String} {n : Nat} (h : number? name "run" = some n) :
    IsName name := by
  obtain ⟨-, rest, hrest, hn⟩ := number?_eq_some h
  have hhead : name.toList.head? = some 'r' := by
    rw [hrest]
    rfl
  have hne : ∀ s : String, s.toList.head? ≠ some 'r' → name ≠ s := by
    rintro s hs rfl
    exact hs hhead
  refine ⟨hne _ (by decide), hne _ (by decide), hne _ (by decide), fun hslash => ?_⟩
  rw [hrest, List.mem_append, List.mem_cons] at hslash
  rcases hslash with hc | hc | hc
  · exact absurd hc (by decide)
  · exact absurd hc (by decide)
  · rcases (Decimal.readNat_eq_ok hn).1 _ hc with hd | hd
    · exact absurd hd (by decide)
    · exact absurd hd (by decide)

/-! ### The directories of runs keep apart -/

theorem components_runDir (root : Path) (k : RunKey) :
    (runDir root k).components = runLocation root.components k := by
  rw [runDir, endpointDir, Path.components_join (isName_runName _),
    Path.components_join (isName_endpointName _), runLocation, List.append_assoc]
  rfl

/-- A run's directory is found where its path leads, from anywhere. -/
theorem locate_runDir (cwd : Location) (root : Path) (k : RunKey) :
    (runDir root k).locate cwd = runLocation (root.locate cwd) k := by
  rw [runDir, endpointDir, Path.locate_join (isName_runName _),
    Path.locate_join (isName_endpointName _), runLocation, List.append_assoc]
  rfl

/-- The name of a directory is read back as the number it was made from.  Two runs have different
directories, of which neither is on the way to the other, whether they are compared as they are written or
as they are found from anywhere; and nothing lies in both. -/
theorem directories_identify_runs :
    (∀ n, 0 < n → n ≤ Decimal.max32 →
      number? (endpointName n) "endpoint" = some n ∧ number? (runName n) "run" = some n) ∧
    (∀ root, Function.Injective (runDir root)) ∧
    ∀ (root : Path) (k k' : RunKey), k ≠ k' →
      ¬ (runDir root k).components <+: (runDir root k').components ∧
      ∀ cwd, ¬ (runDir root k).locate cwd <+: (runDir root k').locate cwd ∧
        ∀ l, (runDir root k).locate cwd <+: l → ¬ (runDir root k').locate cwd <+: l := by
  refine ⟨fun n hpos hn => ⟨number?_own_endpointName hpos hn, number?_own_runName hpos hn⟩, ?_, ?_⟩
  · intro root k k' h
    have hc := congrArg Path.components h
    rw [components_runDir, components_runDir] at hc
    exact runLocation_injective hc
  · intro root k k' hne
    rw [components_runDir, components_runDir]
    refine ⟨fun h => hne <| eq_of_runLocation_prefix h (List.prefix_refl _), fun cwd => ?_⟩
    rw [locate_runDir, locate_runDir]
    exact ⟨fun h => hne <| eq_of_runLocation_prefix h (List.prefix_refl _),
      fun l h h' => hne <| eq_of_runLocation_prefix h h'⟩

theorem directories_identify_runs_wide :
    (0 < 4294967295 ∧ 4294967295 ≤ Decimal.max32 ∧
      number? "endpoint_4294967295" "endpoint" = some 4294967295 ∧
      number? "run_4294967295" "run" = some 4294967295) ∧
    (⟨1, 112⟩ : RunKey) ≠ ⟨11, 12⟩ ∧
      ¬ (runDir ⟨"../results/"⟩ ⟨1, 112⟩).locate ["home"] <+:
        (runDir ⟨"../results/"⟩ ⟨11, 12⟩).locate ["home"] := by
  obtain ⟨hnumber, -, hapart⟩ := directories_identify_runs
  have hendpoint : endpointName 4294967295 = "endpoint_4294967295" := by decide
  have hrun : runName 4294967295 = "run_4294967295" := by decide
  have hread := hnumber 4294967295 (by decide) (by decide)
  rw [hendpoint, hrun] at hread
  exact ⟨⟨by decide, by decide, hread⟩, by decide, ((hapart _ _ _ (by decide)).2 _).1⟩

end Layout

end SuiteBench
