import Mathlib.Data.List.Range
import SuiteBench.Benchmark.Plan

/-!
# Proofs.Benchmark.Stages — a plan as a list of stages

Following a plan is two nested loops with several ways out.  Here a plan is one list of stages, each
of which settles at most one run, and a course goes through the list until a stage ends it: what was
settled is then a front part of the keys, whatever the surroundings do.
-/

namespace SuiteBench

variable {σ ε : Type}

namespace Course

@[simp] theorem start_andThen (s : σ) (next : σ → Course σ ε) : (start s).andThen next = next s := by
  simp [andThen, start]

theorem andThen_of_finished {c : Course σ ε} (h : c.ending = .finished) (next : σ → Course σ ε) :
    c.andThen next = { next c.state with settled := c.settled ++ (next c.state).settled } := by
  simp [andThen, h]

theorem andThen_of_ended {c : Course σ ε} (h : c.ending ≠ .finished) (next : σ → Course σ ε) :
    c.andThen next = c := by
  rw [andThen]
  split
  · next hf => exact absurd hf h
  · rfl

@[simp] theorem andThen_start (c : Course σ ε) : c.andThen start = c := by
  by_cases h : c.ending = .finished
  · rw [andThen_of_finished h, start, ← h]
    simp
  · exact andThen_of_ended h start

theorem andThen_assoc (c : Course σ ε) (f g : σ → Course σ ε) :
    (c.andThen f).andThen g = c.andThen fun s => (f s).andThen g := by
  by_cases h : c.ending = .finished
  · rw [andThen_of_finished h, andThen_of_finished h]
    by_cases hf : (f c.state).ending = .finished
    · rw [andThen_of_finished hf, andThen_of_finished (by exact hf)]
      simp
    · rw [andThen_of_ended hf, andThen_of_ended (by exact hf)]
  · rw [andThen_of_ended h, andThen_of_ended h, andThen_of_ended h]

end Course

/-- A stretch of a plan within which at most one run is settled. -/
inductive Stage where
  /-- Lets milliseconds pass. -/
  | rest (ms : Nat)
  /-- Settles a run, after milliseconds if there is a pause. -/
  | turn (pause : Option Nat) (e : Endpoint) (n : Nat)
  /-- Ends the work on an endpoint. -/
  | close (e : Endpoint)

namespace Stage

/-- The keys that a stage settles if nothing ends it early. -/
def keys : Stage → List RunKey
  | turn _ e n => [⟨e.id, n⟩]
  | rest _ | close _ => []

variable (x : Surroundings σ ε) (p : Plan)

/-- Follows one stage. -/
def follow : Stage → σ → Course σ ε
  | rest ms, s => Plan.pause x ms s
  | turn none e n, s => Plan.settle x p e n s
  | turn (some ms) e n, s => (Plan.pause x ms s).andThen (Plan.settle x p e n)
  | close e, s => Plan.close x e s

end Stage

namespace Plan

variable (x : Surroundings σ ε) (p : Plan)

/-- Follows stages until one of them ends the course. -/
def through : List Stage → σ → Course σ ε
  | [], s => .start s
  | st :: rest, s => (st.follow x p s).andThen (through rest)

/-- The stages of an endpoint, with what pause there is before its first run. -/
def endpointStages (first : Option Nat) (e : Endpoint) : List Stage :=
  (match p.options.runsPerEndpoint with
    | 0 => first.toList.map .rest
    | r + 1 => .turn first e 1 :: (List.range' 2 r).map (.turn (some p.options.runPause) e)) ++
    [.close e]

/-- The stages of some endpoints. -/
def stagesOf : (first : Bool) → List Endpoint → List Stage
  | _, [] => []
  | first, e :: rest =>
    p.endpointStages (if first then none else some p.options.endpointPause) e ++ stagesOf false rest

/-- The stages of the plan. -/
def stages : List Stage := p.stagesOf true p.endpoints

variable {x p}

/-! ### The loops and the list -/

theorem through_append (a b : List Stage) (s : σ) :
    through x p (a ++ b) s = (through x p a s).andThen (through x p b) := by
  induction a generalizing s with
  | nil => rw [List.nil_append, through, Course.start_andThen]
  | cons st a ih =>
    rw [List.cons_append, through, through, Course.andThen_assoc]
    congr 1
    funext s
    exact ih s

theorem through_singleton (st : Stage) (s : σ) : through x p [st] s = st.follow x p s :=
  Course.andThen_start _

theorem settleRuns_eq_through (e : Endpoint) (left n : Nat) (hn : 1 < n) (s : σ) :
    settleRuns x p e left n s =
      through x p ((List.range' n left).map (.turn (some p.options.runPause) e)) s := by
  induction left generalizing n s with
  | zero => rfl
  | succ left ih =>
    rw [settleRuns, if_pos hn, List.range'_succ, List.map_cons, through, Stage.follow]
    congr 1
    funext s
    exact ih (n + 1) (by omega) s

theorem settleEndpoint_eq_through (e : Endpoint) (s : σ) :
    settleEndpoint x p e s = through x p (p.endpointStages none e) s := by
  rw [settleEndpoint, endpointStages, through_append]
  congr 1
  · cases p.options.runsPerEndpoint with
    | zero => rfl
    | succ r =>
      rw [settleRuns, if_neg (by omega), Course.start_andThen, through, Stage.follow]
      congr 1
      funext s
      exact settleRuns_eq_through e r 2 (by omega) s
  · funext s
    rw [through_singleton, Stage.follow]

/-- A pause before an endpoint is the pause before its first run. -/
theorem through_endpointStages_some (ms : Nat) (e : Endpoint) (s : σ) :
    through x p (p.endpointStages (some ms) e) s =
      (pause x ms s).andThen (through x p (p.endpointStages none e)) := by
  rw [endpointStages, endpointStages]
  cases p.options.runsPerEndpoint with
  | zero => rfl
  | succ r =>
    simp only [List.cons_append, through, Stage.follow, Course.andThen_assoc]

theorem settleEndpoints_eq_through (first : Bool) (es : List Endpoint) (s : σ) :
    settleEndpoints x p first es s = through x p (p.stagesOf first es) s := by
  induction es generalizing first s with
  | nil => rfl
  | cons e es ih =>
    rw [settleEndpoints, stagesOf, through_append]
    congr 1
    · cases first with
      | true =>
        rw [if_pos rfl, if_pos rfl, Course.start_andThen, settleEndpoint_eq_through]
      | false =>
        rw [if_neg (by simp), if_neg (by simp), through_endpointStages_some]
        congr 1
        funext s
        exact settleEndpoint_eq_through e s
    · funext s
      exact ih false s

/-- Following a plan is going through its stages. -/
theorem follow_eq_through (s : σ) : p.follow x s = through x p p.stages s :=
  settleEndpoints_eq_through true p.endpoints s

/-! ### The keys of the stages -/

theorem keys_turns (pause : Option Nat) (e : Endpoint) (ns : List Nat) :
    (ns.map (Stage.turn pause e)).flatMap Stage.keys = ns.map fun n => ⟨e.id, n⟩ := by
  rw [List.flatMap_map]
  exact List.map_eq_flatMap.symm

theorem keys_endpointStages (first : Option Nat) (e : Endpoint) :
    (p.endpointStages first e).flatMap Stage.keys = p.endpointKeys e := by
  rw [endpointStages, endpointKeys, List.flatMap_append]
  cases p.options.runsPerEndpoint with
  | zero => cases first <;> rfl
  | succ r =>
    simp only [List.flatMap_cons, keys_turns, List.range_succ_eq_map, List.range'_eq_map_range]
    simp only [Stage.keys, List.map_cons, List.map_map, List.flatMap_nil, List.append_nil,
      List.singleton_append, List.cons.injEq, true_and]
    exact List.map_congr_left fun i _ => by simp [Nat.add_comm 2, Nat.add_assoc]

theorem keys_stagesOf (first : Bool) (es : List Endpoint) :
    (p.stagesOf first es).flatMap Stage.keys = es.flatMap p.endpointKeys := by
  induction es generalizing first with
  | nil => rfl
  | cons e es ih =>
    rw [stagesOf, List.flatMap_append, keys_endpointStages, ih, List.flatMap_cons]

theorem keys_stages : p.stages.flatMap Stage.keys = p.keys := keys_stagesOf true p.endpoints

end Plan

/-! ### What surroundings promise -/

/-- Surroundings whose records belong to the run that was attempted, and which remember a signal. -/
structure Surroundings.Lawful (x : Surroundings σ ε) : Prop where
  key : ∀ e n s r, (x.attempt e n s).1 = .ok (some r) → r.key = ⟨e.id, n⟩
  wait : ∀ ms s, x.stopped s = true → x.stopped (x.wait ms s) = true
  attempt : ∀ e n s, x.stopped s = true → x.stopped (x.attempt e n s).2 = true
  complete : ∀ e s, x.stopped s = true → x.stopped (x.complete e s).2 = true

variable {x : Surroundings σ ε} {p : Plan}

namespace Plan

/-- What becomes of a run: it is settled, the course ends before it, or the attempt at it ends the
course. -/
theorem settle_cases (x : Surroundings σ ε) (p : Plan) (e : Endpoint) (n : Nat) (s : σ) :
    (x.stopped s = true ∧ settle x p e n s = ⟨s, [], .interrupted⟩) ∨
    (x.stopped s = false ∧ p.options.skipExisting = true ∧ x.hasRecord ⟨e.id, n⟩ s = true ∧
      settle x p e n s = ⟨s, [.skipped ⟨e.id, n⟩], .finished⟩) ∨
    (x.stopped s = false ∧ (p.options.skipExisting = true → x.hasRecord ⟨e.id, n⟩ s = false) ∧
      ((∃ r, (x.attempt e n s).1 = .ok (some r) ∧
          settle x p e n s = ⟨(x.attempt e n s).2, [.recorded r], .finished⟩) ∨
        ((x.attempt e n s).1 = .ok none ∧
          settle x p e n s = ⟨(x.attempt e n s).2, [], .interrupted⟩) ∨
        ∃ f, (x.attempt e n s).1 = .error f ∧
          settle x p e n s = ⟨(x.attempt e n s).2, [], .failed f⟩)) := by
  rw [settle]
  cases hs : x.stopped s with
  | true => simp
  | false =>
    by_cases hh : p.options.skipExisting = true ∧ x.hasRecord ⟨e.id, n⟩ s = true
    · simp [hh]
    · have hh' : p.options.skipExisting = true → x.hasRecord ⟨e.id, n⟩ s = false := fun h =>
        Bool.eq_false_iff.mpr fun h' => hh ⟨h, h'⟩
      rw [if_neg (by simp), if_neg (by simpa using hh')]
      refine .inr (.inr ⟨rfl, hh', ?_⟩)
      cases ha : x.attempt e n s with
      | mk a s' =>
        cases a with
        | error f => simp
        | ok o => cases o <;> simp

end Plan

namespace Stage

/-- A stage that is finished has settled its keys; one that ends the course has settled nothing. -/
theorem follow_cases (hx : x.Lawful) (st : Stage) (s : σ) :
    ((st.follow x p s).ending = .finished ∧ (st.follow x p s).settled.map Settled.key = st.keys) ∨
    ((st.follow x p s).settled = [] ∧
      ((st.follow x p s).ending = .interrupted ∧ (st.keys ≠ [] ∨ ∃ ms, st = .rest ms) ∨
        ∃ f, (st.follow x p s).ending = .failed f)) := by
  have hsettle : ∀ e n s, ((Plan.settle x p e n s).ending = .finished ∧
      (Plan.settle x p e n s).settled.map Settled.key = [⟨e.id, n⟩]) ∨
      ((Plan.settle x p e n s).settled = [] ∧ ((Plan.settle x p e n s).ending = .interrupted ∨
        ∃ f, (Plan.settle x p e n s).ending = .failed f)) := by
    intro e n s
    obtain ⟨-, h⟩ | ⟨-, -, -, h⟩ | ⟨-, -, ⟨r, hr, h⟩ | ⟨-, h⟩ | ⟨f, -, h⟩⟩ :=
      Plan.settle_cases x p e n s
    · simp [h]
    · simp [h, Settled.key]
    · simp [h, Settled.key, hx.key e n s r hr]
    · simp [h]
    · simp [h]
  have hpause : ∀ ms s, (Plan.pause x ms s).settled = [] ∧
      ((Plan.pause x ms s).ending = .finished ∨ (Plan.pause x ms s).ending = .interrupted) := by
    intro ms s
    refine ⟨rfl, ?_⟩
    by_cases h : x.stopped (x.wait ms s) = true <;> simp [Plan.pause, h]
  cases st with
  | rest ms => rcases hpause ms s with ⟨h, h' | h'⟩ <;> simp [follow, keys, h, h']
  | turn pause e n =>
    cases pause with
    | none => simpa [follow, keys] using hsettle e n s
    | some ms =>
      rw [follow]
      obtain ⟨h, h' | h'⟩ := hpause ms s
      · rw [Course.andThen_of_finished h', h]
        simpa [keys] using hsettle e n _
      · rw [Course.andThen_of_ended (by simp [h'])]
        simp [keys, h, h']
  | close e =>
    rw [follow, Plan.close]
    cases ha : x.complete e s with
    | mk a s' => cases a <;> simp [keys, Course.start]

end Stage

namespace Plan

/-! ### Every course -/

/-- What was settled are the keys of a front part of the stages; an interrupt leaves some out. -/
theorem through_cases (hx : x.Lawful) (stages : List Stage) (s : σ) :
    ∃ done left, stages = done ++ left ∧
      (through x p stages s).settled.map Settled.key = done.flatMap Stage.keys ∧
      ((through x p stages s).ending = .finished ∧ left = [] ∨
        (through x p stages s).ending = .interrupted ∧
          (left.flatMap Stage.keys ≠ [] ∨ ∃ ms, .rest ms ∈ stages) ∨
        ∃ f, (through x p stages s).ending = .failed f) := by
  induction stages generalizing s with
  | nil => exact ⟨[], [], rfl, rfl, .inl ⟨rfl, rfl⟩⟩
  | cons st rest ih =>
    rw [through]
    rcases Stage.follow_cases (p := p) hx st s with ⟨hf, hk⟩ | ⟨h0, hend⟩
    · obtain ⟨done, left, rfl, hkeys, hend⟩ := ih (st.follow x p s).state
      rw [Course.andThen_of_finished hf]
      refine ⟨st :: done, left, rfl, by simp [hk, hkeys], ?_⟩
      rcases hend with h | ⟨h, hl | ⟨ms, hms⟩⟩ | h
      · exact .inl h
      · exact .inr (.inl ⟨h, .inl hl⟩)
      · exact .inr (.inl ⟨h, .inr ⟨ms, List.mem_cons_of_mem _ hms⟩⟩)
      · exact .inr (.inr h)
    · have hne : (st.follow x p s).ending ≠ .finished := by
        rcases hend with ⟨h, -⟩ | ⟨f, h⟩ <;> simp [h]
      rw [Course.andThen_of_ended hne]
      refine ⟨[], st :: rest, rfl, by simp [h0], ?_⟩
      rcases hend with ⟨h, hst⟩ | h
      · refine .inr (.inl ⟨h, ?_⟩)
        rcases hst with hst | ⟨ms, rfl⟩
        · exact .inl (by simp [hst])
        · exact .inr ⟨ms, List.mem_cons_self⟩
      · exact .inr (.inr h)

/-- What is settled is a front part of the plan. -/
theorem settled_prefix_keys (hx : x.Lawful) (p : Plan) (s : σ) :
    (p.follow x s).settled.map Settled.key <+: p.keys := by
  obtain ⟨done, left, hst, hk, -⟩ := through_cases (p := p) hx p.stages s
  rw [follow_eq_through, hk, ← keys_stages, hst, List.flatMap_append]
  exact List.prefix_append _ _

end Plan

/-! ### What is kept along a course -/

/-- What is kept by everything that happens while a plan is followed, each run being attempted or
skipped for the first time. -/
structure Surroundings.Keeps (x : Surroundings σ ε) (skipExisting : Bool)
    (P : List Settled → σ → Prop) : Prop where
  wait : ∀ l ms s, P l s → P l (x.wait ms s)
  skip : ∀ l k s, P l s → k ∉ l.map Settled.key → skipExisting = true →
    x.hasRecord k s = true → P (l ++ [.skipped k]) s
  record : ∀ l (e : Endpoint) n s r, P l s → ⟨e.id, n⟩ ∉ l.map Settled.key →
    (skipExisting = true → x.hasRecord ⟨e.id, n⟩ s = false) →
    (x.attempt e n s).1 = .ok (some r) → P (l ++ [.recorded r]) (x.attempt e n s).2
  cancel : ∀ l (e : Endpoint) n s, P l s → ⟨e.id, n⟩ ∉ l.map Settled.key →
    (skipExisting = true → x.hasRecord ⟨e.id, n⟩ s = false) →
    (x.attempt e n s).1 = .ok none → P l (x.attempt e n s).2
  complete : ∀ l e s, P l s → (x.complete e s).1 = .ok () → P l (x.complete e s).2

theorem Stage.follow_keeps {P : List Settled → σ → Prop} (hP : x.Keeps p.options.skipExisting P)
    (st : Stage) {l : List Settled} {s : σ} (h : P l s) (hn : ∀ k ∈ st.keys, k ∉ l.map Settled.key)
    (hf : ∀ f, (st.follow x p s).ending ≠ .failed f) :
    P (l ++ (st.follow x p s).settled) (st.follow x p s).state := by
  have hsettle : ∀ (e : Endpoint) n s, P l s → ⟨e.id, n⟩ ∉ l.map Settled.key →
      (∀ f, (Plan.settle x p e n s).ending ≠ .failed f) →
      P (l ++ (Plan.settle x p e n s).settled) (Plan.settle x p e n s).state := by
    intro e n s h hn hf
    obtain ⟨-, hs⟩ | ⟨-, hsk, hr, hs⟩ | ⟨-, hr, ⟨r, ha, hs⟩ | ⟨ha, hs⟩ | ⟨f, -, hs⟩⟩ :=
      Plan.settle_cases x p e n s
    · simpa [hs] using h
    · simpa [hs] using hP.skip l _ s h hn hsk hr
    · simpa [hs] using hP.record l e n s r h hn hr ha
    · simpa [hs] using hP.cancel l e n s h hn hr ha
    · exact absurd (by rw [hs]) (hf f)
  have hpause : ∀ ms, P (l ++ (Plan.pause x ms s).settled) (Plan.pause x ms s).state := fun ms => by
    simpa [Plan.pause] using hP.wait l ms s h
  cases st with
  | rest ms => exact hpause ms
  | turn pause e n =>
    have hn' : ⟨e.id, n⟩ ∉ l.map Settled.key := hn _ (by simp [keys])
    cases pause with
    | none => exact hsettle e n s h hn' hf
    | some ms =>
      rw [follow] at hf ⊢
      by_cases hp : (Plan.pause x ms s).ending = .finished
      · rw [Course.andThen_of_finished hp] at hf ⊢
        exact hsettle e n _ (hP.wait l ms s h) hn' hf
      · rw [Course.andThen_of_ended hp]
        exact hpause ms
  | close e =>
    rw [follow, Plan.close] at hf ⊢
    cases ha : x.complete e s with
    | mk a s' =>
      cases a with
      | error f => exact absurd (by rw [ha]) (hf f)
      | ok v =>
        have := hP.complete l e s h (by rw [ha])
        simpa [ha, Course.start] using this

namespace Plan

theorem through_keeps {P : List Settled → σ → Prop} (hP : x.Keeps p.options.skipExisting P)
    (hx : x.Lawful) (stages : List Stage) {l : List Settled} {s : σ} (h : P l s)
    (hn : (l.map Settled.key ++ stages.flatMap Stage.keys).Nodup)
    (hf : ∀ f, (through x p stages s).ending ≠ .failed f) :
    P (l ++ (through x p stages s).settled) (through x p stages s).state := by
  induction stages generalizing l s with
  | nil => simpa [through, Course.start] using h
  | cons st rest ih =>
    rw [List.flatMap_cons] at hn
    have hnew : ∀ k ∈ st.keys, k ∉ l.map Settled.key := fun k hk hl =>
      (List.nodup_append.mp hn).2.2 _ hl _ (List.mem_append_left _ hk) rfl
    rw [through] at hf ⊢
    by_cases hfin : (st.follow x p s).ending = .finished
    · rw [Course.andThen_of_finished hfin] at hf ⊢
      have hst := Stage.follow_keeps hP st h hnew (by simp [hfin])
      have hkeys : (st.follow x p s).settled.map Settled.key = st.keys := by
        rcases Stage.follow_cases (p := p) hx st s with ⟨-, hk⟩ | ⟨-, ⟨hi, -⟩ | ⟨f, hi⟩⟩
        · exact hk
        · simp [hfin] at hi
        · simp [hfin] at hi
      rw [← List.append_assoc]
      refine ih hst ?_ hf
      rwa [List.map_append, hkeys, List.append_assoc]
    · rw [Course.andThen_of_ended hfin] at hf ⊢
      exact Stage.follow_keeps hP st h hnew hf

/-- What is kept while a plan is followed holds of everything that was settled. -/
theorem follow_keeps {P : List Settled → σ → Prop} (hP : x.Keeps p.options.skipExisting P)
    (hx : x.Lawful) {s : σ} (h : P [] s) (hn : p.keys.Nodup)
    (hf : ∀ f, (p.follow x s).ending ≠ .failed f) :
    P (p.follow x s).settled (p.follow x s).state := by
  rw [follow_eq_through] at hf ⊢
  simpa using through_keeps hP hx p.stages h (by simpa [keys_stages] using hn) hf

end Plan

/-! ### Why a course fails -/

/-- Whether an operation on a run or on an endpoint fails with `f` from a state. -/
def Surroundings.Fails (x : Surroundings σ ε) (s : σ) (f : ε) : Prop :=
  (∃ e n, (x.attempt e n s).1 = .error f) ∨ ∃ e, (x.complete e s).1 = .error f

/-- What every operation of the surroundings keeps, whatever its outcome. -/
structure Surroundings.Maintains (x : Surroundings σ ε) (P : σ → Prop) : Prop where
  wait : ∀ ms s, P s → P (x.wait ms s)
  attempt : ∀ e n s, P s → P (x.attempt e n s).2
  complete : ∀ e s, P s → P (x.complete e s).2

theorem Stage.follow_maintains {P : σ → Prop} (hP : x.Maintains P) (st : Stage) {s : σ} (h : P s) :
    P (st.follow x p s).state ∧
      ∀ f, (st.follow x p s).ending = .failed f → ∃ s', P s' ∧ x.Fails s' f := by
  have hsettle : ∀ e n s, P s → P (Plan.settle x p e n s).state ∧
      ∀ f, (Plan.settle x p e n s).ending = .failed f → ∃ s', P s' ∧ x.Fails s' f := by
    intro e n s h
    have ha := hP.attempt e n s h
    obtain ⟨-, hs⟩ | ⟨-, -, -, hs⟩ | ⟨-, -, ⟨r, -, hs⟩ | ⟨-, hs⟩ | ⟨f, hf, hs⟩⟩ :=
      Plan.settle_cases x p e n s
    · simpa [hs] using h
    · simpa [hs] using h
    · simpa [hs] using ha
    · simpa [hs] using ha
    · rw [hs]
      refine ⟨ha, fun f' hf' => ⟨s, h, .inl ⟨e, n, ?_⟩⟩⟩
      cases hf'
      exact hf
  have hpause : ∀ ms f, (Plan.pause x ms s).ending ≠ .failed f := by
    intro ms f
    by_cases hs : x.stopped (x.wait ms s) = true <;> simp [Plan.pause, hs]
  cases st with
  | rest ms => exact ⟨hP.wait ms s h, fun f hf => absurd hf (hpause ms f)⟩
  | turn pause e n =>
    cases pause with
    | none => exact hsettle e n s h
    | some ms =>
      rw [follow]
      by_cases hp : (Plan.pause x ms s).ending = .finished
      · rw [Course.andThen_of_finished hp]
        exact hsettle e n _ (hP.wait ms s h)
      · rw [Course.andThen_of_ended hp]
        exact ⟨hP.wait ms s h, fun f hf => absurd hf (hpause ms f)⟩
  | close e =>
    have hc := hP.complete e s h
    rw [follow, Plan.close]
    cases ha : x.complete e s with
    | mk a s' =>
      rw [ha] at hc
      cases a with
      | error f =>
        refine ⟨hc, fun f' hf' => ⟨s, h, .inr ⟨e, ?_⟩⟩⟩
        cases hf'
        rw [ha]
      | ok v => exact ⟨hc, fun f hf => by simp [Course.start] at hf⟩

namespace Plan

theorem through_maintains {P : σ → Prop} (hP : x.Maintains P) (stages : List Stage) {s : σ}
    (h : P s) : P (through x p stages s).state ∧
      ∀ f, (through x p stages s).ending = .failed f → ∃ s', P s' ∧ x.Fails s' f := by
  induction stages generalizing s with
  | nil => exact ⟨h, fun f hf => by simp [through, Course.start] at hf⟩
  | cons st rest ih =>
    rw [through]
    by_cases hfin : (st.follow x p s).ending = .finished
    · rw [Course.andThen_of_finished hfin]
      exact ih (Stage.follow_maintains (p := p) hP st h).1
    · rw [Course.andThen_of_ended hfin]
      exact Stage.follow_maintains hP st h

/-- What every operation keeps holds after a course; if the course failed, it held when the operation
failed that ended it. -/
theorem follow_maintains {P : σ → Prop} (hP : x.Maintains P) {s : σ} (h : P s) :
    P (p.follow x s).state ∧
      ∀ f, (p.follow x s).ending = .failed f → ∃ s', P s' ∧ x.Fails s' f := by
  rw [follow_eq_through]
  exact through_maintains hP p.stages h

end Plan

/-! ### What is kept once an endpoint is done -/

/-- The endpoint that a stage works on, if it does not only let time pass. -/
def Stage.endpoint? : Stage → Option Endpoint
  | rest _ => none
  | turn _ e _ | close e => some e

/-- What is kept by letting time pass and by every operation on the endpoints of some kind. -/
structure Surroundings.MaintainsFor (x : Surroundings σ ε) (Q : Endpoint → Prop) (P : σ → Prop) :
    Prop where
  wait : ∀ ms s, P s → P (x.wait ms s)
  attempt : ∀ e n s, Q e → P s → P (x.attempt e n s).2
  complete : ∀ e s, Q e → P s → P (x.complete e s).2

theorem Stage.follow_maintainsFor {Q : Endpoint → Prop} {P : σ → Prop} (hP : x.MaintainsFor Q P)
    (st : Stage) (hq : ∀ e ∈ st.endpoint?, Q e) {s : σ} (h : P s) : P (st.follow x p s).state := by
  have hsettle : ∀ e n s, Q e → P s → P (Plan.settle x p e n s).state := by
    intro e n s he h
    have ha := hP.attempt e n s he h
    obtain ⟨-, hs⟩ | ⟨-, -, -, hs⟩ | ⟨-, -, ⟨r, -, hs⟩ | ⟨-, hs⟩ | ⟨f, -, hs⟩⟩ :=
      Plan.settle_cases x p e n s <;> rw [hs] <;> assumption
  cases st with
  | rest ms => exact hP.wait ms s h
  | turn pause e n =>
    cases pause with
    | none => exact hsettle e n s (hq e rfl) h
    | some ms =>
      rw [follow]
      by_cases hp : (Plan.pause x ms s).ending = .finished
      · rw [Course.andThen_of_finished hp]
        exact hsettle e n _ (hq e rfl) (hP.wait ms s h)
      · rw [Course.andThen_of_ended hp]
        exact hP.wait ms s h
  | close e =>
    have hc := hP.complete e s (hq e rfl) h
    rw [follow, Plan.close]
    cases ha : x.complete e s with
    | mk a s' =>
      rw [ha] at hc
      cases a <;> exact hc

namespace Plan

theorem through_maintainsFor {Q : Endpoint → Prop} {P : σ → Prop} (hP : x.MaintainsFor Q P)
    (stages : List Stage) (hq : ∀ st ∈ stages, ∀ e ∈ st.endpoint?, Q e) {s : σ} (h : P s) :
    P (through x p stages s).state := by
  induction stages generalizing s with
  | nil => exact h
  | cons st rest ih =>
    obtain ⟨hst, hrest⟩ := List.forall_mem_cons.mp hq
    have hone := Stage.follow_maintainsFor (p := p) hP st hst h
    rw [through]
    by_cases hfin : (st.follow x p s).ending = .finished
    · rw [Course.andThen_of_finished hfin]
      exact ih hrest hone
    · rwa [Course.andThen_of_ended hfin]

/-- The work on an endpoint is ended by the last of its stages. -/
theorem endpointStages_eq (p : Plan) (first : Option Nat) (e : Endpoint) : ∃ turns,
    p.endpointStages first e = turns ++ [.close e] ∧
      ∀ st ∈ turns, (∀ e', st ≠ .close e') ∧ ∀ e' ∈ st.endpoint?, e' = e := by
  rw [endpointStages]
  refine ⟨_, rfl, fun st hst => ?_⟩
  split at hst
  · obtain ⟨ms, -, rfl⟩ := List.mem_map.mp hst
    exact ⟨by simp, by simp [Stage.endpoint?]⟩
  · rcases List.mem_cons.mp hst with rfl | hst
    · exact ⟨by simp, by simp [Stage.endpoint?]⟩
    · obtain ⟨n, -, rfl⟩ := List.mem_map.mp hst
      exact ⟨by simp, by simp [Stage.endpoint?]⟩

theorem endpoint_of_mem_stagesOf {first : Bool} {es : List Endpoint} {st : Stage}
    (h : st ∈ p.stagesOf first es) : ∀ e ∈ st.endpoint?, e ∈ es := by
  induction es generalizing first with
  | nil => cases h
  | cons e es ih =>
    intro e' he'
    rw [stagesOf] at h
    rcases List.mem_append.mp h with h | h
    · obtain ⟨turns, heq, hturns⟩ :=
        p.endpointStages_eq (if first then none else some p.options.endpointPause) e
      rw [heq] at h
      rcases List.mem_append.mp h with h | h
      · exact (hturns st h).2 e' he' ▸ List.mem_cons_self
      · obtain rfl := List.mem_singleton.mp h
        cases he'
        exact List.mem_cons_self
    · exact List.mem_cons_of_mem _ (ih h e' he')

theorem pairwise_stagesOf (p : Plan) (first : Bool) {es : List Endpoint}
    (hn : (es.map (·.id)).Nodup) : (p.stagesOf first es).Pairwise fun a b =>
      ∀ e, a = .close e → ∀ e' ∈ b.endpoint?, e'.id ≠ e.id := by
  induction es generalizing first with
  | nil => exact .nil
  | cons e es ih =>
    obtain ⟨he, hes⟩ := List.nodup_cons.mp hn
    obtain ⟨turns, heq, hturns⟩ :=
      p.endpointStages_eq (if first then none else some p.options.endpointPause) e
    have hnone : ∀ st ∈ turns, ∀ e', st ≠ .close e' := fun st hst => (hturns st hst).1
    rw [stagesOf, heq, List.append_assoc, List.singleton_append, List.pairwise_append]
    refine ⟨List.pairwise_of_forall_mem_list fun a ha b _ e' hc => absurd hc (hnone a ha e'), ?_,
      fun a ha b _ e' hc => absurd hc (hnone a ha e')⟩
    refine List.pairwise_cons.mpr ⟨fun st hst e' hc e'' he'' hid => he ?_, ih false hes⟩
    cases hc
    exact List.mem_map.mpr ⟨e'', endpoint_of_mem_stagesOf hst e'' he'', hid⟩

/-- Once the work on an endpoint is ended, no stage works on it any more. -/
theorem later_stages (hn : (p.endpoints.map (·.id)).Nodup) {e : Endpoint} {before after : List Stage}
    (h : p.stages = before ++ .close e :: after) :
    e ∈ p.endpoints ∧ ∀ st ∈ after, ∀ e' ∈ st.endpoint?, e'.id ≠ e.id := by
  have hpair := p.pairwise_stagesOf true hn
  have hmem : .close e ∈ p.stagesOf true p.endpoints := by
    rw [← stages, h]
    exact List.mem_append_right _ List.mem_cons_self
  rw [← stages, h] at hpair
  exact ⟨endpoint_of_mem_stagesOf hmem e rfl,
    fun st hst => (List.pairwise_cons.mp (List.pairwise_append.mp hpair).2.1).1 st hst e rfl⟩

/-- The end of the work on an endpoint, on the way of a course that does not fail. -/
theorem through_close {before after : List Stage} {e : Endpoint} {s : σ}
    (hb : (through x p before s).ending = .finished)
    (hf : ∀ f, (through x p (before ++ .close e :: after) s).ending ≠ .failed f) :
    (x.complete e (through x p before s).state).1 = .ok () ∧
      (through x p (before ++ .close e :: after) s).state =
        (through x p after (x.complete e (through x p before s).state).2).state := by
  rw [through_append, Course.andThen_of_finished hb, through] at hf ⊢
  rw [Stage.follow, close] at hf ⊢
  cases ha : x.complete e (through x p before s).state with
  | mk a s' =>
    rw [ha] at hf
    cases a with
    | error f => exact absurd rfl (hf f)
    | ok v => exact ⟨rfl, by rw [Course.start_andThen]⟩

end Plan

end SuiteBench
