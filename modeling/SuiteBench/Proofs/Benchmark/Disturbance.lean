import SuiteBench.Proofs.Benchmark.Stages

/-!
# Proofs.Benchmark.Disturbance — what happens beside a benchmark

While a plan is followed the world may change on its own, say because a signal comes.  Such changes are
numbered: one stands before and one after every operation.  What surroundings promise they still
promise when changes come in between that respect it, and changes that change nothing make no
difference.
-/

namespace SuiteBench

variable {σ τ ε : Type}

namespace Surroundings

/-- Surroundings in which the change with the next number happens before and after every operation. -/
def disturbed (x : Surroundings σ ε) (change : Nat → σ → σ) : Surroundings (σ × Nat) ε where
  stopped s := x.stopped s.1
  wait ms s := (change (s.2 + 1) (x.wait ms (change s.2 s.1)), s.2 + 2)
  hasRecord k s := x.hasRecord k s.1
  attempt e n s :=
    let (outcome, s') := x.attempt e n (change s.2 s.1)
    (outcome, (change (s.2 + 1) s', s.2 + 2))
  complete e s :=
    let (outcome, s') := x.complete e (change s.2 s.1)
    (outcome, (change (s.2 + 1) s', s.2 + 2))

variable {x : Surroundings σ ε} {change : Nat → σ → σ}

theorem Lawful.disturbed (hx : x.Lawful)
    (hc : ∀ i s, x.stopped s = true → x.stopped (change i s) = true) :
    (x.disturbed change).Lawful where
  key e n _ r h := hx.key e n _ r h
  wait ms _ h := hc _ _ (hx.wait ms _ (hc _ _ h))
  attempt e n _ h := hc _ _ (hx.attempt e n _ (hc _ _ h))
  complete e _ h := hc _ _ (hx.complete e _ (hc _ _ h))

theorem Maintains.disturbed {P : σ → Prop} (hx : x.Maintains P) (hc : ∀ i s, P s → P (change i s)) :
    (x.disturbed change).Maintains fun s => P s.1 where
  wait ms _ h := hc _ _ (hx.wait ms _ (hc _ _ h))
  attempt e n _ h := hc _ _ (hx.attempt e n _ (hc _ _ h))
  complete e _ h := hc _ _ (hx.complete e _ (hc _ _ h))

theorem MaintainsFor.disturbed {Q : Endpoint → Prop} {P : σ → Prop} (hx : x.MaintainsFor Q P)
    (hc : ∀ i s, P s → P (change i s)) : (x.disturbed change).MaintainsFor Q fun s => P s.1 where
  wait ms _ h := hc _ _ (hx.wait ms _ (hc _ _ h))
  attempt e n _ he h := hc _ _ (hx.attempt e n _ he (hc _ _ h))
  complete e _ he h := hc _ _ (hx.complete e _ he (hc _ _ h))

theorem Fails.of_disturbed {s : σ × Nat} {f : ε} (h : (x.disturbed change).Fails s f) :
    x.Fails (change s.2 s.1) f := h

theorem Keeps.disturbed {b : Bool} {P : List Settled → σ → Prop} (hx : x.Keeps b P)
    (hc : ∀ l i s, P l s → P l (change i s))
    (hr : ∀ k i s, x.hasRecord k (change i s) = x.hasRecord k s) :
    (x.disturbed change).Keeps b fun l s => P l s.1 where
  wait l ms _ h := hc _ _ _ (hx.wait l ms _ (hc _ _ _ h))
  skip l k s h hn hb hk := hx.skip l k s.1 h hn hb hk
  record l e n _ r h hn hk ha := hc _ _ _
    (hx.record l e n _ r (hc _ _ _ h) hn (fun hb => (hr _ _ _).trans (hk hb)) ha)
  cancel l e n _ h hn hk ha := hc _ _ _
    (hx.cancel l e n _ (hc _ _ _ h) hn (fun hb => (hr _ _ _).trans (hk hb)) ha)
  complete l e _ h ha := hc _ _ _ (hx.complete l e _ (hc _ _ _ h) ha)

end Surroundings

/-! ### Surroundings that hold more than others -/

/-- A course of which some of the state is forgotten. -/
def Course.map (f : τ → σ) (c : Course τ ε) : Course σ ε := ⟨f c.state, c.settled, c.ending⟩

/-- Whether surroundings act on what is left of their state like others do. -/
structure Surroundings.Projects (y : Surroundings τ ε) (x : Surroundings σ ε) (f : τ → σ) : Prop where
  stopped : ∀ s, x.stopped (f s) = y.stopped s
  wait : ∀ ms s, x.wait ms (f s) = f (y.wait ms s)
  hasRecord : ∀ k s, x.hasRecord k (f s) = y.hasRecord k s
  attempt : ∀ e n s, x.attempt e n (f s) = ((y.attempt e n s).1, f (y.attempt e n s).2)
  complete : ∀ e s, x.complete e (f s) = ((y.complete e s).1, f (y.complete e s).2)

section

variable {x : Surroundings σ ε} {y : Surroundings τ ε} {f : τ → σ} {p : Plan}

theorem Course.andThen_map {c : Course τ ε} {next : τ → Course τ ε} {next' : σ → Course σ ε}
    (h : ∀ s, (next s).map f = next' (f s)) : (c.andThen next).map f = (c.map f).andThen next' := by
  by_cases hc : c.ending = .finished
  · rw [andThen_of_finished hc, andThen_of_finished (show (c.map f).ending = .finished from hc)]
    have := h c.state
    rw [show (c.map f).state = f c.state from rfl, ← this]
    rfl
  · rw [andThen_of_ended hc, andThen_of_ended (show (c.map f).ending ≠ .finished from hc)]

theorem Stage.follow_map (h : y.Projects x f) (st : Stage) (s : τ) :
    (st.follow y p s).map f = st.follow x p (f s) := by
  have hpause : ∀ ms s, (Plan.pause y ms s).map f = Plan.pause x ms (f s) := fun ms s => by
    simp only [Plan.pause, Course.map, h.wait, h.stopped]
  have hsettle : ∀ e n s, (Plan.settle y p e n s).map f = Plan.settle x p e n (f s) := by
    intro e n s
    simp only [Plan.settle, h.stopped, h.hasRecord, h.attempt]
    cases y.attempt e n s with
    | mk a s' =>
      cases a with
      | error g => split_ifs <;> rfl
      | ok o => cases o <;> split_ifs <;> rfl
  cases st with
  | rest ms => exact hpause ms s
  | turn pause e n =>
    cases pause with
    | none => exact hsettle e n s
    | some ms =>
      rw [follow, follow, ← hpause]
      exact Course.andThen_map (hsettle e n)
  | close e =>
    simp only [follow, Plan.close, h.complete]
    cases y.complete e s with
    | mk a s' => cases a <;> rfl

theorem Plan.through_map (h : y.Projects x f) (stages : List Stage) (s : τ) :
    (through y p stages s).map f = through x p stages (f s) := by
  induction stages generalizing s with
  | nil => rfl
  | cons st rest ih =>
    rw [through, through, ← Stage.follow_map h]
    exact Course.andThen_map ih

/-- A plan is followed in the same way where the state holds more. -/
theorem Plan.follow_map (h : y.Projects x f) (s : τ) : (p.follow y s).map f = p.follow x (f s) := by
  rw [follow_eq_through, follow_eq_through, through_map h]

end

/-- Changes that change nothing make no difference. -/
theorem Plan.follow_undisturbed (x : Surroundings σ ε) (p : Plan) (s : σ) (i : Nat) :
    (p.follow (x.disturbed fun _ s => s) (s, i)).map Prod.fst = p.follow x s :=
  have h : (x.disturbed fun _ s => s).Projects x Prod.fst :=
    ⟨fun _ => rfl, fun _ _ => rfl, fun _ _ => rfl, fun _ _ _ => rfl, fun _ _ => rfl⟩
  follow_map h (s, i)

end SuiteBench
