import SuiteBench.Proofs.Store.Records

/-!
# Proofs.Store.Claims — no run has two writers

The claimed runs are those of the claims that are held, one for each, after whatever was asked of a
store.  A run can therefore be claimed just when nobody holds a claim on it, and giving a claim up frees
that run alone, even where its directory cannot be removed.
-/

namespace SuiteBench

namespace Claims

variable {c c' : Claims} {name : String} {k k' : RunKey}

/-- The claimed runs are those of the held claims, of which no two are on one run or have one name. -/
structure Exclusive (c : Claims) : Prop where
  claimed_iff : ∀ k, k ∈ c.claimed ↔ k ∈ c.held.map Prod.snd
  runs : (c.held.map Prod.snd).Nodup
  names : (c.held.map Prod.fst).Nodup

theorem exclusive_none : Claims.none.Exclusive :=
  ⟨fun _ => Iff.rfl, List.nodup_nil, List.nodup_nil⟩

theorem notMem_of_key? (h : c.key? name = .none) : ∀ x ∈ c.held, x.1 ≠ name := by
  intro x hx he
  have := List.lookup_eq_none_iff.mp h x hx
  simp [he] at this

/-! ### Giving a claim up -/

theorem held_drop (c : Claims) (name : String) :
    (c.drop name).held = c.held.filter fun x => x.1 != name := by
  rw [drop]
  split
  · rfl
  · next hk =>
    refine (List.filter_eq_self.mpr fun x hx => ?_).symm
    simpa using notMem_of_key? hk x hx

/-- A claim that is given up frees its own run and no other. -/
theorem mem_claimed_drop : k ∈ (c.drop name).claimed ↔ k ∈ c.claimed ∧ c.key? name ≠ some k := by
  rw [drop]
  split
  · next k' hk =>
    rw [hk, List.mem_filter, bne_iff_ne, ne_comm, ne_eq, ne_eq, Option.some.injEq]
  · next hk => simp [hk]

namespace Exclusive

/-- The run of a claim is found by its name. -/
theorem key?_eq_some_iff (h : c.Exclusive) : c.key? name = some k ↔ (name, k) ∈ c.held :=
  Tree.lookup_eq_some_iff_mem h.names

/-- No two claims that are held are on one run. -/
theorem name_unique (h : c.Exclusive) {name' : String} (hk : (name, k) ∈ c.held)
    (hk' : (name', k) ∈ c.held) : name' = name :=
  (Prod.mk.inj (List.inj_on_of_nodup_map h.runs hk' hk rfl)).1

theorem drop (h : c.Exclusive) (name : String) : (c.drop name).Exclusive where
  claimed_iff k := by
    rw [mem_claimed_drop, h.claimed_iff, held_drop, ne_eq, h.key?_eq_some_iff]
    simp only [List.mem_map, List.mem_filter, bne_iff_ne, Prod.exists, exists_eq_right]
    constructor
    · rintro ⟨⟨name', hm⟩, hn⟩
      exact ⟨name', hm, fun he => hn (he ▸ hm)⟩
    · rintro ⟨name', hm, hn⟩
      exact ⟨⟨name', hm⟩, fun hm' => hn (h.name_unique hm' hm)⟩
  runs := by
    rw [held_drop]
    exact h.runs.sublist (List.filter_sublist.map _)
  names := by
    rw [held_drop]
    exact h.names.sublist (List.filter_sublist.map _)

end Exclusive

/-! ### Claiming -/

/-- A claim on a run is refused exactly if the run is claimed; else it stands beside the others, in
the place of one of its name. -/
theorem claim_cases (c : Claims) (name : String) (k : RunKey) :
    (k ∈ c.claimed ∧ c.claim name k = .error (.alreadyClaimed k)) ∨
      (k ∉ c.claimed ∧
        c.claim name k = .ok ⟨k :: (c.drop name).claimed, (name, k) :: (c.drop name).held⟩) := by
  by_cases hk : k ∈ c.claimed
  · exact .inl ⟨hk, by simp [claim, hk]⟩
  · exact .inr ⟨hk, by simp [claim, hk]⟩

theorem Exclusive.claim (h : c.Exclusive) (hc : c.claim name k = .ok c') : c'.Exclusive := by
  obtain ⟨-, he⟩ | ⟨hk, he⟩ := claim_cases c name k
  · rw [hc] at he
    cases he
  · rw [hc] at he
    cases he
    have hd := h.drop name
    have hfree : k ∉ (c.drop name).held.map Prod.snd := fun hm =>
      hk (mem_claimed_drop.mp ((hd.claimed_iff k).mpr hm)).1
    refine ⟨fun k' => ?_, List.nodup_cons.mpr ⟨hfree, hd.runs⟩, List.nodup_cons.mpr ⟨?_, hd.names⟩⟩
    · simp [hd.claimed_iff k']
    · rw [held_drop]
      simp

end Claims

namespace Custody

variable {d : ResultsDir} {s : Custody} {name : String} {k k' : RunKey} {r : RunRecord}

/-! ### One request -/

theorem claims_perform_save (d : ResultsDir) (s : Custody) (name : String) (r : RunRecord) :
    (s.perform d (.save name r)).2.claims = s.claims := by
  rw [perform]
  split <;> rfl

/-- What a request does to the claims: nothing, or one is taken or given up. -/
theorem claims_perform (d : ResultsDir) (s : Custody) (q : Request) :
    (s.perform d q).2.claims = s.claims ∨
      (∃ name, (s.perform d q).2.claims = s.claims.drop name) ∨
      ∃ name k, s.claims.claim name k = .ok (s.perform d q).2.claims := by
  cases q with
  | claim name k =>
    obtain ⟨-, hc⟩ | ⟨-, hc⟩ := Claims.claim_cases s.claims name k
    · exact .inl (by rw [perform, hc])
    · exact .inr (.inr ⟨name, k, by rw [perform, hc]⟩)
  | save name r => exact .inl (claims_perform_save d s name r)
  | drop name =>
    rw [perform]
    split
    · exact .inl rfl
    · exact .inr (.inl ⟨name, rfl⟩)
  | discard name =>
    rw [perform]
    split
    · exact .inl rfl
    · exact .inr (.inl ⟨name, rfl⟩)

theorem exclusive_perform (h : s.claims.Exclusive) (q : Request) :
    (s.perform d q).2.claims.Exclusive := by
  obtain hc | ⟨name, hc⟩ | ⟨name, k, hc⟩ := claims_perform d s q
  · rwa [hc]
  · rw [hc]
    exact h.drop name
  · exact h.claim hc

/-- Whatever is asked of a store, in whatever order, its claims stay exclusive. -/
theorem exclusive_after (d : ResultsDir) (requests : List Request) {s : Custody}
    (h : s.claims.Exclusive) : (s.after d requests).claims.Exclusive := by
  induction requests generalizing s with
  | nil => exact h
  | cons q requests ih => exact ih (exclusive_perform h q)

theorem perform_claim_of_mem (h : k ∈ s.claims.claimed) :
    s.perform d (.claim name k) = (.refused (.alreadyClaimed k), s) := by
  obtain ⟨-, hc⟩ | ⟨hn, -⟩ := Claims.claim_cases s.claims name k
  · rw [perform, hc]
  · exact absurd h hn

theorem perform_claim_of_notMem (h : k ∉ s.claims.claimed) :
    s.perform d (.claim name k) = (.done, ⟨s.tree,
      ⟨k :: (s.claims.drop name).claimed, (name, k) :: (s.claims.drop name).held⟩⟩) := by
  obtain ⟨hk, -⟩ | ⟨-, hc⟩ := Claims.claim_cases s.claims name k
  · exact absurd hk h
  · rw [perform, hc]

/-- Dropping a claim and discarding its run give it up, whatever comes of the directory. -/
theorem claims_release (h : s.claims.key? name = some k) {q : Request}
    (hq : q = .drop name ∨ q = .discard name) :
    (s.perform d q).2.claims = s.claims.drop name := by
  rcases hq with rfl | rfl <;> rw [perform, h]

theorem perform_save_of_ne (h : s.claims.key? name = some k) (hk : k ≠ r.key) :
    s.perform d (.save name r) = (.refused (.claimMismatch k r.key), s) := by
  simp only [perform, h, Claims.save, if_neg hk]
  rfl

/-! ### Every history of a store -/

/-- Nobody writes a run but the holder of the one claim on it, whatever is asked next. -/
structure OneWriter (d : ResultsDir) (s : Custody) : Prop where
  /-- The claimed runs are those of the claims that are held. -/
  claimed_iff : ∀ k, k ∈ s.claims.claimed ↔ ∃ name, (name, k) ∈ s.claims.held
  /-- No two claims that are held are on one run. -/
  runs : (s.claims.held.map Prod.snd).Nodup
  /-- A run can be claimed exactly if no claim on it is held, and then its claim is. -/
  claim_iff : ∀ name k, (s.perform d (.claim name k)).1 = .done ↔ ∀ x ∈ s.claims.held, x.2 ≠ k
  held_claim : ∀ name k, (s.perform d (.claim name k)).1 = .done →
    (name, k) ∈ (s.perform d (.claim name k)).2.claims.held
  /-- A claim on a run that has one is refused, and nothing changes. -/
  claim_refused : ∀ name, ∀ x ∈ s.claims.held,
    s.perform d (.claim name x.2) = (.refused (.alreadyClaimed x.2), s)
  /-- The record of another run is refused, and no file changes. -/
  save_refused : ∀ x ∈ s.claims.held, ∀ r : RunRecord, x.2 ≠ r.key →
    s.perform d (.save x.1 r) = (.refused (.claimMismatch x.2 r.key), s)
  /-- Saving takes no claim and gives none up, whatever becomes of the files. -/
  save_keeps : ∀ name r, (s.perform d (.save name r)).2.claims = s.claims
  /-- Giving a claim up frees its run and no other, also where the directory of the run is not there
  or cannot be removed. -/
  release : ∀ x ∈ s.claims.held, ∀ q : Request, q = .drop x.1 ∨ q = .discard x.1 →
    (∀ k, k ∈ (s.perform d q).2.claims.claimed ↔ k ∈ s.claims.claimed ∧ k ≠ x.2) ∧
      ∀ y, y ∈ (s.perform d q).2.claims.held ↔ y ∈ s.claims.held ∧ y ≠ x

theorem mem_claimed_iff (h : s.claims.Exclusive) :
    k ∈ s.claims.claimed ↔ ∃ name, (name, k) ∈ s.claims.held := by
  rw [h.claimed_iff]
  simp only [List.mem_map, Prod.exists, exists_eq_right]

theorem notMem_claimed_iff (h : s.claims.Exclusive) :
    k ∉ s.claims.claimed ↔ ∀ x ∈ s.claims.held, x.2 ≠ k := by
  rw [h.claimed_iff]
  simp only [List.mem_map, not_exists, not_and, ne_eq]

/-- What is left when the claim `x` is given up. -/
theorem released (h : s.claims.Exclusive) {x : String × RunKey} (hx : x ∈ s.claims.held) :
    (∀ k, k ∈ (s.claims.drop x.1).claimed ↔ k ∈ s.claims.claimed ∧ k ≠ x.2) ∧
      ∀ y, y ∈ (s.claims.drop x.1).held ↔ y ∈ s.claims.held ∧ y ≠ x := by
  have hkey : s.claims.key? x.1 = some x.2 := h.key?_eq_some_iff.mpr hx
  constructor
  · intro k
    rw [Claims.mem_claimed_drop, hkey, ne_eq, Option.some.injEq, eq_comm]
  · intro y
    rw [Claims.held_drop, List.mem_filter, bne_iff_ne]
    refine and_congr_right fun hy => not_congr ⟨fun he => ?_, fun he => he ▸ rfl⟩
    exact List.inj_on_of_nodup_map h.names hy hx he

theorem oneWriter_of_exclusive (h : s.claims.Exclusive) : s.OneWriter d where
  claimed_iff _ := mem_claimed_iff h
  runs := h.runs
  claim_iff name k := by
    rw [← notMem_claimed_iff h]
    constructor
    · intro hdone hk
      rw [perform_claim_of_mem hk] at hdone
      cases hdone
    · intro hk
      rw [perform_claim_of_notMem hk]
  held_claim name k hdone := by
    by_cases hk : k ∈ s.claims.claimed
    · rw [perform_claim_of_mem hk] at hdone
      cases hdone
    · rw [perform_claim_of_notMem hk]
      exact List.mem_cons_self
  claim_refused name x hx := perform_claim_of_mem ((mem_claimed_iff h).mpr ⟨x.1, hx⟩)
  save_refused x hx r hr := perform_save_of_ne (h.key?_eq_some_iff.mpr hx) hr
  save_keeps name r := claims_perform_save d s name r
  release x hx q hq := by
    rw [claims_release (h.key?_eq_some_iff.mpr hx) hq]
    exact released h hx

end Custody

/-- A store that was opened on any tree has one writer for each run, whatever was asked of it and of
its copies since. -/
theorem oneWriter_after (d : ResultsDir) (t : Tree) (requests : List Custody.Request) :
    ((⟨t, .none⟩ : Custody).after d requests).OneWriter d :=
  Custody.oneWriter_of_exclusive (Custody.exclusive_after d requests Claims.exclusive_none)

/-- A file in the place of a run's directory, which cannot be removed as one, keeps no claim alive. -/
example : let s : Custody := ⟨⟨[(["results"], .directory), (["results", "endpoint_03"], .directory),
      (["results", "endpoint_03", "run_07"], .file ByteArray.empty false)]⟩, .none⟩
    let t := s.after sampleDir [.claim "first" ⟨3, 7⟩]
    (t.perform sampleDir (.claim "second" ⟨3, 7⟩)).1 = .refused (.alreadyClaimed ⟨3, 7⟩) ∧
      (t.perform sampleDir (.discard "first")).1 ≠ .done ∧
      ((t.after sampleDir [.discard "first"]).perform sampleDir (.claim "second" ⟨3, 7⟩)).1 = .done := by
  decide

end SuiteBench
