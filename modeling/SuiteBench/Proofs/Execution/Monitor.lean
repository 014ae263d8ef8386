import Mathlib.Data.Nat.Factorization.Basic
import SuiteBench.Execution.Monitor

/-!
# Proofs.Execution.Monitor — which samples a monitor brings

While the task is not told to stop it samples at every tick and nowhere else, so what it has taken tells
where its clock stands between two ticks.  When the owner stops it there is one sample more to come, and
when the owner drops the handle there is none.
-/

namespace SuiteBench

/-! ### What is known of channels and tickers -/

/-- How a channel for one message behaves: its receiver waits until the message comes or the sender is
gone. -/
structure Oneshot.Documented (o : Oneshot) : Prop where
  isReady_create : o.isReady o.create = false
  isReady_send (c) : o.isReady (o.send c) = true

/-- How a ticker behaves that is asked for a tick no later than the tick is due: each tick comes at its
time, and an interval before the next. -/
structure Ticker.Documented (k : Ticker) : Prop where
  create_of_pos (first) {interval} (h : 0 < interval) :
    ∃ t, k.create first interval = some t ∧ k.due t = first ∧ k.interval t = interval
  tick?_early {t now} (h : now < k.due t) : k.tick? t now = none
  tick?_due (t) : ∃ t', k.tick? t (k.due t) = some t' ∧ k.due t' = k.due t + k.interval t ∧
    k.interval t' = k.interval t

theorem Oneshot.documented_flag : Oneshot.flag.Documented where
  isReady_create := rfl
  isReady_send _ := rfl

theorem Ticker.documented_delaying : Ticker.delaying.Documented where
  create_of_pos _ _ h := ⟨_, if_neg h.ne', rfl, rfl⟩
  tick?_early h := if_neg (Nat.not_le.mpr h)
  tick?_due t := ⟨_, if_pos (Nat.le_refl t.1), rfl, rfl⟩

/-- The number of ticks before `stop`. -/
def ticksBefore (interval stop : Nat) : Nat := {t ∈ Finset.Ioo 0 stop | interval ∣ t}.card

section Ticks

variable {interval stop n : Nat}

theorem ticksBefore_eq_div (interval stop : Nat) : ticksBefore interval stop = (stop - 1) / interval := by
  have hrange : Finset.Ioo 0 stop = Finset.Ioc 0 (stop - 1) := by
    ext t
    simp only [Finset.mem_Ioo, Finset.mem_Ioc]
    omega
  rw [ticksBefore, hrange, Nat.Ioc_filter_dvd_card_eq_div]

theorem le_ticksBefore (hi : 0 < interval) (h : n * interval < stop) :
    n ≤ ticksBefore interval stop := by
  rw [ticksBefore_eq_div, Nat.le_div_iff_mul_le hi]
  omega

theorem ticksBefore_eq (h : n * interval < stop) (h' : stop ≤ (n + 1) * interval) :
    ticksBefore interval stop = n := by
  rw [ticksBefore_eq_div]
  exact Nat.div_eq_of_lt_le (by omega) (by omega)

end Ticks

namespace Sampler

variable {o : Oneshot} {k : Ticker} {α : Type} {probe : Nat → Option α} {interval : Nat}
  {s s' : Sampler o k α} {a : SamplerAction} {schedule : List SamplerAction}

/-! ### Schedules -/

theorem run?_nil : s.run? probe interval [] = some s := rfl

theorem run?_cons : s.run? probe interval (a :: schedule) = some s' ↔
    ∃ t, s.step? probe interval a = some t ∧ t.run? probe interval schedule = some s' := by
  rw [run?, List.foldlM_cons]
  exact Option.bind_eq_some_iff

theorem run?_append {later : List SamplerAction} :
    s.run? probe interval (schedule ++ later) = some s' ↔
      ∃ t, s.run? probe interval schedule = some t ∧ t.run? probe interval later = some s' := by
  rw [run?, List.foldlM_append]
  exact Option.bind_eq_some_iff

theorem step?_wait {ms : Nat} : s.step? probe interval (.wait ms) = some s' ↔
    (0 < ms ∧ s.canWait ms = true) ∧ { s with now := s.now + ms } = s' := by
  simp [step?]

theorem step?_stop : s.step? probe interval .stop = some s' ↔ s.handle = .held ∧ s.stop = s' := by
  simp [step?]

theorem step?_drop : s.step? probe interval .drop = some s' ↔ s.handle = .held ∧ s.drop = s' := by
  simp [step?]

variable (probe interval) in
/-- Waiting until a time is a schedule that ends as the clock gets there. -/
theorem exists_schedule_wait {time : Nat} (hle : s.now ≤ time)
    (hwait : s.canWait (time - s.now) = true) : ∃ schedule,
      s.run? probe interval schedule = some { s with now := time } ∧
        (s.now = time ∨ ∃ ms, schedule.getLast? = some (.wait ms)) := by
  rcases Nat.lt_or_eq_of_le hle with hlt | rfl
  · have hpos : 0 < time - s.now := Nat.sub_pos_of_lt hlt
    have hstep : s.step? probe interval (.wait (time - s.now)) = some { s with now := time } :=
      step?_wait.mpr ⟨⟨hpos, hwait⟩, by rw [Nat.add_sub_cancel' hle]⟩
    exact ⟨[.wait (time - s.now)], run?_cons.mpr ⟨_, hstep, rfl⟩, .inr ⟨_, rfl⟩⟩
  · exact ⟨[], rfl, .inl rfl⟩

/-! ### Turns -/

theorem sample_of_some {x : α} (h : probe s.calls = some x) (next : SamplerStatus k) :
    s.sample probe next =
      { s with taken := x :: s.taken, calls := s.calls + 1, status := next } := by
  rw [sample, h]

theorem sample_of_none (h : probe s.calls = none) (next : SamplerStatus k) :
    s.sample probe next = { s with calls := s.calls + 1, status := .failed } := by
  rw [sample, h]

@[simp] theorem handle_sample (next : SamplerStatus k) : (s.sample probe next).handle = s.handle := by
  rw [sample]
  split <;> rfl

@[simp] theorem handle_pass (t : k.State) : (s.pass probe t).handle = s.handle := by
  rw [pass]
  split
  · exact handle_sample _
  · split
    · exact handle_sample _
    · rfl

@[simp] theorem handle_turn : (s.turn probe interval).handle = s.handle := by
  rw [turn]
  split
  · rfl
  · rfl
  · split
    · exact handle_pass _
    · rfl
  · exact handle_pass _
  · rfl
  · rfl
  · rfl

theorem not_spawned_sample {next : SamplerStatus k} (h : next ≠ .spawned) :
    (s.sample probe next).status ≠ .spawned := by
  rw [sample]
  split
  · exact h
  · simp

theorem not_spawned_pass {t : k.State} : (s.pass probe t).status ≠ .spawned := by
  rw [pass]
  split
  · exact not_spawned_sample (by simp)
  · split
    · exact not_spawned_sample (by simp)
    · simp

theorem not_spawned_turn : (s.turn probe interval).status ≠ .spawned := by
  rw [turn]
  split
  · simp
  · simp
  · split
    · exact not_spawned_pass
    · simp
  · exact not_spawned_pass
  · next hst => simp [hst]
  · next hst => simp [hst]
  · next hst => simp [hst]

/-- Only the owner lets the handle go. -/
theorem held_of_step? (h : s.step? probe interval a = some s') (hheld : s'.handle = .held) :
    s.handle = .held := by
  cases a with
  | turn =>
    cases h
    rwa [handle_turn] at hheld
  | wait ms =>
    obtain ⟨-, rfl⟩ := step?_wait.mp h
    exact hheld
  | stop => exact (step?_stop.mp h).1
  | drop => exact (step?_drop.mp h).1

/-! ### While the handle is held -/

/-- Where a task stands whose handle is held: between the last tick that it took and the next one. -/
def StandsAt (probe : Nat → Option α) (interval : Nat) (s : Sampler o k α) : SamplerStatus k → Prop
  | .spawned => s.now = 0 ∧ s.calls = 0 ∧ s.taken = []
  | .running t => s.calls = s.taken.length ∧ k.interval t = interval ∧
      k.due t = (s.calls + 1) * interval ∧ s.calls * interval ≤ s.now ∧ s.now ≤ k.due t
  | .failed => (∃ i < s.calls, probe i = none) ∧ s.calls * interval ≤ s.now
  | .finished | .cancelled => False

/-- What is known of a task whose handle is held: it has sampled at every tick so far. -/
structure OnTime (probe : Nat → Option α) (interval : Nat) (s : Sampler o k α) : Prop where
  channel : s.channel = o.create
  handle : s.handle = .held
  status : StandsAt probe interval s s.status
  taken : s.taken.reverse.map some = (List.range s.taken.length).map probe

theorem onTime_start : (start o k α).OnTime probe interval := ⟨rfl, rfl, ⟨rfl, rfl, rfl⟩, rfl⟩

theorem OnTime.cases (h : s.OnTime probe interval) :
    (s.status = .spawned ∧ StandsAt probe interval s .spawned) ∨
      (∃ t, s.status = .running t ∧ StandsAt probe interval s (.running t)) ∨
        s.status = .failed ∧ StandsAt probe interval s .failed := by
  have hstatus := h.status
  cases hst : s.status with
  | spawned => exact .inl ⟨rfl, hst ▸ hstatus⟩
  | running t => exact .inr (.inl ⟨t, rfl, hst ▸ hstatus⟩)
  | failed => exact .inr (.inr ⟨rfl, hst ▸ hstatus⟩)
  | finished => exact (hst ▸ hstatus : StandsAt probe interval s .finished).elim
  | cancelled => exact (hst ▸ hstatus : StandsAt probe interval s .cancelled).elim

theorem OnTime.wait {ms : Nat} (h : s.OnTime probe interval) (hwait : s.canWait ms = true) :
    OnTime probe interval { s with now := s.now + ms } := by
  refine ⟨h.channel, h.handle, ?_, h.taken⟩
  rw [canWait] at hwait
  dsimp only
  obtain ⟨hst, -⟩ | ⟨t, hst, hcalls, hinterval, hdue, hlast, -⟩ | ⟨hst, hprobe, hlast⟩ := h.cases
  · rw [hst] at hwait
    exact absurd hwait Bool.false_ne_true
  · rw [hst] at hwait ⊢
    simp only [Bool.and_eq_true, decide_eq_true_eq] at hwait
    exact ⟨hcalls, hinterval, hdue, hlast.trans (Nat.le_add_right _ _), hwait.2⟩
  · rw [hst]
    exact ⟨hprobe, hlast.trans (Nat.le_add_right _ _)⟩

theorem OnTime.turn_running {t : k.State} (h : s.OnTime probe interval)
    (hst : s.status = .running t) : s.turn probe interval = s.pass probe t := by
  simp only [turn, hst, h.handle]

/-- The first turn sets up the ticks. -/
theorem OnTime.turn_spawned (hk : k.Documented) (hi : 0 < interval) (h : s.OnTime probe interval)
    (hst : s.status = .spawned) (hstands : StandsAt probe interval s .spawned) :
    ∃ t, StandsAt probe interval s (.running t) ∧ s.turn probe interval = s.pass probe t := by
  obtain ⟨hnow, hcalls, htaken⟩ := hstands
  obtain ⟨t, hcreate, hdue, hinterval⟩ := hk.create_of_pos (s.now + interval) hi
  refine ⟨t, ⟨?_, hinterval, ?_, ?_, ?_⟩, ?_⟩
  · rw [hcalls, htaken, List.length_nil]
  · rw [hdue, hnow, hcalls, Nat.zero_add, Nat.one_mul]
  · rw [hcalls, Nat.zero_mul]
    exact Nat.zero_le _
  · rw [hdue]
    exact Nat.le_add_right _ _
  · simp only [turn, hst, h.handle, hcreate]

theorem turn_failed (hst : s.status = .failed) : s.turn probe interval = s := by
  simp only [turn, hst]

section Documented

variable (ho : o.Documented) (hk : k.Documented) (hi : 0 < interval)

include ho in
theorem OnTime.not_ready (h : s.OnTime probe interval) : ¬o.isReady s.channel = true := by
  rw [h.channel, ho.isReady_create]
  exact Bool.false_ne_true

include ho hk

/-- A task that waits for a tick goes on waiting until the tick is due, and takes a sample then. -/
theorem OnTime.pass_cases {t : k.State} (h : s.OnTime probe interval)
    (hstands : StandsAt probe interval s (.running t)) :
    (s.now < k.due t ∧ s.pass probe t = { s with status := .running t }) ∨
      s.now = (s.calls + 1) * interval ∧ ∃ t', k.interval t' = interval ∧
        k.due t' = (s.calls + 1 + 1) * interval ∧ s.pass probe t = s.sample probe (.running t') := by
  obtain ⟨-, hinterval, hdue, -, hnext⟩ := hstands
  rw [Sampler.pass, if_neg (h.not_ready ho)]
  rcases Nat.lt_or_eq_of_le hnext with hearly | hnow
  · exact .inl ⟨hearly, by rw [hk.tick?_early hearly]⟩
  · obtain ⟨t', htick, hdue', hinterval'⟩ := hk.tick?_due t
    refine .inr ⟨hnow.trans hdue, t', hinterval'.trans hinterval, ?_, by rw [hnow, htick]⟩
    rw [hdue', hinterval, hdue, ← Nat.succ_mul]

theorem OnTime.pass {t : k.State} (h : s.OnTime probe interval)
    (hstands : StandsAt probe interval s (.running t)) : (s.pass probe t).OnTime probe interval := by
  have hcalls := hstands.1
  obtain ⟨-, hpass⟩ | ⟨hnow, t', hinterval, hdue, hpass⟩ := h.pass_cases ho hk hstands
  · rw [hpass]
    exact ⟨h.channel, h.handle, hstands, h.taken⟩
  · rw [hpass]
    cases hprobe : probe s.calls with
    | none =>
      rw [sample_of_none hprobe]
      exact ⟨h.channel, h.handle, ⟨⟨s.calls, Nat.lt_succ_self _, hprobe⟩, hnow.ge⟩, h.taken⟩
    | some x =>
      have hlater : s.now ≤ k.due t' := by
        rw [hnow, hdue]
        exact Nat.mul_le_mul_right _ (Nat.le_succ _)
      rw [sample_of_some hprobe]
      refine ⟨h.channel, h.handle, ⟨?_, hinterval, hdue, hnow.ge, hlater⟩, ?_⟩
      · rw [List.length_cons, hcalls]
      · simp [h.taken, ← hcalls, hprobe, List.range_succ]

include hi

/-- After a pass the next tick is still to come. -/
theorem OnTime.lt_due_of_pass {t t' : k.State} (h : s.OnTime probe interval)
    (hstands : StandsAt probe interval s (.running t))
    (hrunning : (s.pass probe t).status = .running t') : s.now < k.due t' := by
  obtain ⟨hlt, hpass⟩ | ⟨hnow, u, -, hdue, hpass⟩ := h.pass_cases ho hk hstands
  · rw [hpass] at hrunning
    cases hrunning
    exact hlt
  · have hlater : s.now < k.due u := by
      rw [hnow, hdue]
      exact Nat.mul_lt_mul_of_pos_right (Nat.lt_succ_self _) hi
    rw [hpass] at hrunning
    cases hprobe : probe s.calls with
    | none =>
      rw [sample_of_none hprobe] at hrunning
      cases hrunning
    | some x =>
      rw [sample_of_some hprobe] at hrunning
      cases hrunning
      exact hlater

theorem OnTime.turn (h : s.OnTime probe interval) : (s.turn probe interval).OnTime probe interval := by
  obtain ⟨hst, hstands⟩ | ⟨t, hst, hstands⟩ | ⟨hst, -⟩ := h.cases
  · obtain ⟨t, hstands, hturn⟩ := h.turn_spawned hk hi hst hstands
    rw [hturn]
    exact h.pass ho hk hstands
  · rw [h.turn_running hst]
    exact h.pass ho hk hstands
  · rwa [turn_failed hst]

/-- After a turn the next tick is still to come. -/
theorem OnTime.lt_due_of_turn {t : k.State} (h : s.OnTime probe interval)
    (hrunning : (s.turn probe interval).status = .running t) : s.now < k.due t := by
  obtain ⟨hst, hstands⟩ | ⟨u, hst, hstands⟩ | ⟨hst, -⟩ := h.cases
  · obtain ⟨u, hstands, hturn⟩ := h.turn_spawned hk hi hst hstands
    exact h.lt_due_of_pass ho hk hi hstands (hturn ▸ hrunning)
  · rw [h.turn_running hst] at hrunning
    exact h.lt_due_of_pass ho hk hi hstands hrunning
  · rw [turn_failed hst, hst] at hrunning
    cases hrunning

/-- A task whose handle is still held is on time, whatever was done. -/
theorem onTime_of_run? (hs : s.handle = .held → s.OnTime probe interval)
    (hrun : s.run? probe interval schedule = some s') (hheld : s'.handle = .held) :
    s'.OnTime probe interval := by
  induction schedule generalizing s with
  | nil =>
    cases hrun
    exact hs hheld
  | cons a schedule ih =>
    obtain ⟨t, hstep, hrest⟩ := run?_cons.mp hrun
    refine ih (fun ht => ?_) hrest
    have h := hs (held_of_step? hstep ht)
    cases a with
    | turn =>
      cases hstep
      exact h.turn ho hk hi
    | wait ms =>
      obtain ⟨⟨-, hwait⟩, rfl⟩ := step?_wait.mp hstep
      exact h.wait hwait
    | stop =>
      obtain ⟨-, rfl⟩ := step?_stop.mp hstep
      cases ht
    | drop =>
      obtain ⟨-, rfl⟩ := step?_drop.mp hstep
      cases ht

end Documented

/-! ### At the stop -/

theorem OnTime.length_taken (h : s.OnTime probe interval) (hok : s.status ≠ .failed) :
    s.taken.length = s.calls := by
  obtain ⟨-, -, hcalls, htaken⟩ | ⟨t, -, hcalls, -⟩ | ⟨hst, -⟩ := h.cases
  · rw [hcalls, htaken, List.length_nil]
  · exact hcalls.symm
  · exact absurd hst hok

/-- No call before the last sample has failed. -/
theorem OnTime.probe_ne_none (h : s.OnTime probe interval) {i : Nat} (hi : i < s.taken.length) :
    probe i ≠ none := by
  have hmem : probe i ∈ s.taken.reverse.map some := by
    rw [h.taken]
    exact List.mem_map_of_mem (List.mem_range.mpr hi)
  obtain ⟨x, -, hx⟩ := List.mem_map.mp hmem
  rw [← hx]
  exact nofun

/-- A task whose handle is held when the clock gets to `stop`, and where the owner acts before the task
has another turn. -/
def Reached (probe : Nat → Option α) (interval stop : Nat) (s : Sampler o k α) : Prop :=
  ∃ schedule, (start o k α).run? probe interval schedule = some s ∧ s.handle = .held ∧ s.now = stop ∧
    (stop = 0 ∨ ∃ ms, schedule.getLast? = some (.wait ms))

theorem OnTime.last_le (h : s.OnTime probe interval) : s.calls * interval ≤ s.now := by
  obtain ⟨-, -, hcalls, -⟩ | ⟨t, -, -, -, -, hlast, -⟩ | ⟨-, -, hlast⟩ := h.cases
  · rw [hcalls, Nat.zero_mul]
    exact Nat.zero_le _
  · exact hlast
  · exact hlast

section Reached

variable {stop : Nat} (ho : o.Documented) (hk : k.Documented) (hi : 0 < interval)

include ho hk hi

theorem Reached.onTime (h : s.Reached probe interval stop) : s.OnTime probe interval := by
  obtain ⟨schedule, hrun, hheld, -⟩ := h
  exact onTime_of_run? ho hk hi (fun _ => onTime_start) hrun hheld

/-- No tick was taken at the stop itself. -/
theorem Reached.last_lt (h : s.Reached probe interval stop) :
    s.calls * interval < stop ∨ stop = 0 ∧ s.calls = 0 := by
  have hle := (h.onTime ho hk hi).last_le
  obtain ⟨schedule, hrun, hheld, rfl, hzero | ⟨ms, hlast⟩⟩ := h
  · rw [hzero] at hle ⊢
    refine .inr ⟨rfl, ?_⟩
    exact (Nat.mul_eq_zero.mp (Nat.le_zero.mp hle)).resolve_right hi.ne'
  · obtain ⟨before, rfl⟩ := List.getLast?_eq_some_iff.mp hlast
    obtain ⟨t, hbefore, hwait⟩ := run?_append.mp hrun
    obtain ⟨u, hstep, hend⟩ := run?_cons.mp hwait
    cases hend
    obtain ⟨⟨hpos, -⟩, rfl⟩ := step?_wait.mp hstep
    have ht := (onTime_of_run? ho hk hi (fun _ => onTime_start) hbefore hheld).last_le
    exact .inl (Nat.lt_of_le_of_lt ht (Nat.lt_add_of_pos_right hpos))

/-- A task that has not failed has sampled at every tick before the stop. -/
theorem Reached.calls_eq (h : s.Reached probe interval stop) (hok : s.status ≠ .failed) :
    s.calls = ticksBefore interval stop := by
  have hnow : s.now = stop := by
    obtain ⟨-, -, -, hnow, -⟩ := h
    exact hnow
  have hnext : s.now ≤ (s.calls + 1) * interval := by
    obtain ⟨-, hzero, -⟩ | ⟨t, -, -, -, hdue, -, hnext⟩ | ⟨hst, -⟩ := (h.onTime ho hk hi).cases
    · rw [hzero]
      exact Nat.zero_le _
    · exact hnext.trans hdue.le
    · exact absurd hst hok
  obtain hlt | ⟨rfl, hzero⟩ := h.last_lt ho hk hi
  · exact (ticksBefore_eq hlt (hnow ▸ hnext)).symm
  · rw [hzero, ticksBefore_eq_div, Nat.zero_sub, Nat.zero_div]

/-- A task that has failed by the stop has failed at a tick before it. -/
theorem Reached.exists_failed (h : s.Reached probe interval stop) (hfailed : s.status = .failed) :
    ∃ i < ticksBefore interval stop, probe i = none := by
  have hstatus := (h.onTime ho hk hi).status
  rw [hfailed] at hstatus
  obtain ⟨⟨i, hlt, hprobe⟩, -⟩ := hstatus
  obtain hlast | ⟨-, hzero⟩ := h.last_lt ho hk hi
  · exact ⟨i, hlt.trans_le (le_ticksBefore hi hlast), hprobe⟩
  · omega

end Reached

/-! ### After the handle is let go -/

/-- Whether the task has ended. -/
def Ended (s : Sampler o k α) : Prop := s.result?.isSome = true

theorem turn_of_ended (h : s.Ended) : s.turn probe interval = s := by
  rw [Ended, result?] at h
  rw [turn]
  cases hst : s.status <;> simp [hst] at h ⊢

/-- Nothing is sampled once the task has ended. -/
theorem run?_of_ended (hs : s.Ended) (hlet : s.handle ≠ .held)
    (hrun : s.run? probe interval schedule = some s') :
    s'.result? = s.result? ∧ s'.calls = s.calls := by
  induction schedule generalizing s with
  | nil =>
    cases hrun
    exact ⟨rfl, rfl⟩
  | cons a schedule ih =>
    obtain ⟨t, hstep, hrest⟩ := run?_cons.mp hrun
    cases a with
    | turn =>
      cases hstep
      rw [turn_of_ended hs] at hrest
      exact ih hs hlet hrest
    | wait ms =>
      obtain ⟨-, rfl⟩ := step?_wait.mp hstep
      exact ih (s := { s with now := s.now + ms }) hs hlet hrest
    | stop => exact absurd (step?_stop.mp hstep).1 hlet
    | drop => exact absurd (step?_drop.mp hstep).1 hlet

theorem ended_sample_finished : (s.sample probe .finished).Ended := by
  rw [sample]
  split <;> rfl

/-- A task that is told to stop ends with its next turn. -/
theorem ended_turn (hready : o.isReady s.channel = true) : (s.turn probe interval).Ended := by
  have hpass (t : k.State) : (s.pass probe t).Ended := by
    rw [pass, if_pos hready]
    exact ended_sample_finished
  rw [turn]
  split
  · rfl
  · rfl
  · split
    · exact hpass _
    · rfl
  · exact hpass _
  · next hst => rw [Ended, result?, hst]; rfl
  · next hst => rw [Ended, result?, hst]; rfl
  · next hst => rw [Ended, result?, hst]; rfl

/-- Of a task that is told to stop only its next turn matters. -/
theorem run?_of_ready (hready : o.isReady s.channel = true) (hlet : s.handle ≠ .held)
    (hturn : .turn ∈ schedule) (hrun : s.run? probe interval schedule = some s') :
    s'.result? = (s.turn probe interval).result? ∧ s'.calls = (s.turn probe interval).calls := by
  by_cases hs : s.Ended
  · rw [turn_of_ended hs]
    exact run?_of_ended hs hlet hrun
  · cases schedule with
    | nil => exact absurd hturn List.not_mem_nil
    | cons a schedule =>
      obtain ⟨t, hstep, hrest⟩ := run?_cons.mp hrun
      cases a with
      | turn =>
        cases hstep
        exact run?_of_ended (ended_turn hready) (by rwa [handle_turn]) hrest
      | wait ms =>
        obtain ⟨⟨-, hwait⟩, -⟩ := step?_wait.mp hstep
        rw [canWait] at hwait
        rw [Ended, result?] at hs
        cases hst : s.status <;> simp [hst, hready] at hwait hs
      | stop => exact absurd (step?_stop.mp hstep).1 hlet
      | drop => exact absurd (step?_drop.mp hstep).1 hlet

theorem run?_stop (ho : o.Documented) {later : List SamplerAction} (hturn : .turn ∈ later)
    (hrun : s.run? probe interval (.stop :: later) = some s') :
    s'.result? = (s.stop.turn probe interval).result? ∧
      s'.calls = (s.stop.turn probe interval).calls := by
  obtain ⟨t, hstep, hrest⟩ := run?_cons.mp hrun
  obtain ⟨-, rfl⟩ := step?_stop.mp hstep
  exact run?_of_ready (ho.isReady_send _) (by simp [stop]) hturn hrest

theorem run?_stop_turn (h : s.handle = .held) :
    s.run? probe interval [.stop, .turn] = some (s.stop.turn probe interval) :=
  run?_cons.mpr ⟨_, step?_stop.mpr ⟨h, rfl⟩, run?_cons.mpr ⟨_, rfl, rfl⟩⟩

/-- A task whose handle was dropped does not call the probe again. -/
theorem run?_of_dropped (hdropped : s.handle = .dropped) (hs : ∀ xs, s.result? = some xs → xs = [])
    (hrun : s.run? probe interval schedule = some s') :
    (∀ xs, s'.result? = some xs → xs = []) ∧ s'.calls = s.calls := by
  induction schedule generalizing s with
  | nil =>
    cases hrun
    exact ⟨hs, rfl⟩
  | cons a schedule ih =>
    obtain ⟨t, hstep, hrest⟩ := run?_cons.mp hrun
    have hlet : s.handle ≠ .held := by
      rw [hdropped]
      decide
    cases a with
    | turn =>
      cases hstep
      by_cases hended : s.Ended
      · rw [turn_of_ended hended] at hrest
        exact ih hdropped hs hrest
      · have hcancelled : s.turn probe interval = { s with status := .cancelled } := by
          rw [Ended, result?] at hended
          rw [Sampler.turn]
          cases hst : s.status <;> simp [hst, hdropped] at hended ⊢
        rw [hcancelled] at hrest
        refine ih (s := { s with status := .cancelled }) hdropped (fun xs h => ?_) hrest
        exact (Option.some.inj h).symm
    | wait ms =>
      obtain ⟨-, rfl⟩ := step?_wait.mp hstep
      exact ih (s := { s with now := s.now + ms }) hdropped hs hrest
    | stop => exact absurd (step?_stop.mp hstep).1 hlet
    | drop => exact absurd (step?_drop.mp hstep).1 hlet

/-! ### What the owner is given -/

section Ending

variable {time : Nat} (ho : o.Documented) (hk : k.Documented) (hi : 0 < interval)

include ho hk hi

/-- The turn that follows the stop takes the last sample. -/
theorem OnTime.turn_stop (h : s.OnTime probe interval) (hok : s.status ≠ .failed) :
    s.stop.turn probe interval = s.stop.sample probe .finished := by
  have hready : o.isReady s.stop.channel = true := ho.isReady_send _
  have hpass (t : k.State) : s.stop.pass probe t = s.stop.sample probe .finished := by
    rw [Sampler.pass, if_pos hready]
  have hsame : s.stop.status = s.status := rfl
  have hhandle : s.stop.handle = .stopping := rfl
  rw [Sampler.turn, hsame, hhandle]
  obtain ⟨hst, -⟩ | ⟨t, hst, -⟩ | ⟨hst, -⟩ := h.cases
  · obtain ⟨t, hcreate, -⟩ := hk.create_of_pos (s.stop.now + interval) hi
    simp only [hst, hcreate]
    exact hpass t
  · simp only [hst]
    exact hpass t
  · exact absurd hst hok

section Reached

variable (h : s.Reached probe interval time)

include h

theorem Reached.not_failed (hok : ∀ i < ticksBefore interval time, probe i ≠ none) :
    s.status ≠ .failed := by
  intro hfailed
  obtain ⟨i, hlt, hprobe⟩ := h.exists_failed ho hk hi hfailed
  exact hok i hlt hprobe

/-- A task that is stopped ends with all readings if none of its calls fails. -/
theorem Reached.turn_stop {readings : Nat → α}
    (hok : ∀ i ≤ ticksBefore interval time, probe i = some (readings i)) :
    (s.stop.turn probe interval).result? =
        some ((List.range (ticksBefore interval time + 1)).map readings) ∧
      (s.stop.turn probe interval).calls = ticksBefore interval time + 1 := by
  have hon := h.onTime ho hk hi
  have hst : s.status ≠ .failed := h.not_failed ho hk hi fun i hlt => by
    rw [hok i hlt.le]
    exact nofun
  have hcalls := h.calls_eq ho hk hi hst
  have htaken : s.taken.reverse = (List.range (ticksBefore interval time)).map readings := by
    refine List.map_injective_iff.mpr (Option.some_injective _) (hon.taken.trans ?_)
    rw [hon.length_taken hst, hcalls, List.map_map]
    exact List.map_congr_left fun i hi => hok i (List.mem_range.mp hi).le
  have hlast : probe s.stop.calls = some (readings (ticksBefore interval time)) := by
    rw [← hok _ (Nat.le_refl _), ← hcalls]
    rfl
  rw [hon.turn_stop ho hk hi hst, sample_of_some hlast]
  refine ⟨congrArg some ?_, congrArg (· + 1) hcalls⟩
  rw [List.range_succ, List.map_append, ← htaken]
  exact List.reverse_cons

/-- A task that is stopped ends with nothing if one of its calls fails. -/
theorem Reached.turn_stop_of_none (hnone : ∃ i ≤ ticksBefore interval time, probe i = none) :
    (s.stop.turn probe interval).result? = some [] := by
  have hon := h.onTime ho hk hi
  by_cases hst : s.status = .failed
  · have hfailed : s.stop.status = .failed := hst
    rw [turn_failed hfailed, result?, hfailed]
  · have hcalls := h.calls_eq ho hk hi hst
    have hlast : probe s.stop.calls = none := by
      obtain ⟨i, hle, hprobe⟩ := hnone
      rcases Nat.lt_or_eq_of_le hle with hlt | rfl
      · rw [← hcalls, ← hon.length_taken hst] at hlt
        exact absurd hprobe (hon.probe_ne_none hlt)
      · rw [← hprobe, ← hcalls]
        rfl
    rw [hon.turn_stop ho hk hi hst, sample_of_none hlast]
    rfl

/-- A task whose handle was just dropped has nothing to give. -/
theorem Reached.result?_drop {xs : List α} (hxs : s.drop.result? = some xs) : xs = [] := by
  have hsame : s.drop.status = s.status := rfl
  rw [result?, hsame] at hxs
  obtain ⟨hst, -⟩ | ⟨t, hst, -⟩ | ⟨hst, -⟩ := (h.onTime ho hk hi).cases <;> rw [hst] at hxs
  · cases hxs
  · cases hxs
  · exact (Option.some.inj hxs).symm

end Reached

omit ho hk hi in
theorem goOn_of_running {t : k.State} (hst : s.status = .running t) :
    goOn probe interval time s =
      if s.now < k.due t ∧ k.due t < time then
        goOn probe interval time ({ s with now := k.due t }.turn probe interval)
      else { s with now := time } := by
  rw [goOn]
  split
  · next u hu =>
    cases hst.symm.trans hu
    rfl
  · next hno => exact (hno t hst).elim

omit ho hk hi in
theorem goOn_of_not_running (hst : ∀ t, s.status ≠ .running t) :
    goOn probe interval time s = { s with now := time } := by
  rw [goOn]
  split
  · next t ht => exact absurd ht (hst t)
  · rfl

/-- A task that goes on until a time follows a schedule that ends as the clock gets there. -/
theorem OnTime.exists_schedule_goOn (h : s.OnTime probe interval) (hle : s.now ≤ time)
    (hspawned : s.status ≠ .spawned) (hdue : ∀ t, s.status = .running t → s.now < k.due t) :
    ∃ schedule, s.run? probe interval schedule = some (goOn probe interval time s) ∧
      (goOn probe interval time s).handle = .held ∧ (goOn probe interval time s).now = time ∧
      (s.now = time ∨ ∃ ms, schedule.getLast? = some (.wait ms)) := by
  induction s using goOn.induct probe interval time with
  | case1 s t hst hcond ih =>
    obtain ⟨hlt, hbefore⟩ := hcond
    have hwait : s.canWait (k.due t - s.now) = true := by
      simp [canWait, hst, h.handle, h.not_ready ho, Nat.add_sub_cancel' hlt.le]
    have hon : OnTime probe interval { s with now := k.due t } := by
      have hlater := h.wait hwait
      rwa [Nat.add_sub_cancel' hlt.le] at hlater
    have hstep : s.step? probe interval (.wait (k.due t - s.now)) =
        some { s with now := k.due t } :=
      step?_wait.mpr ⟨⟨Nat.sub_pos_of_lt hlt, hwait⟩, by rw [Nat.add_sub_cancel' hlt.le]⟩
    obtain ⟨later, hrun, hheld, hnow, hlast⟩ := ih (hon.turn ho hk hi)
      (by rw [now_turn]; exact hbefore.le) not_spawned_turn
      (fun u hu => by rw [now_turn]; exact hon.lt_due_of_turn ho hk hi hu)
    rw [goOn_of_running hst, if_pos ⟨hlt, hbefore⟩]
    refine ⟨.wait (k.due t - s.now) :: .turn :: later, ?_, hheld, hnow, .inr ?_⟩
    · exact run?_cons.mpr ⟨_, hstep, run?_cons.mpr ⟨_, rfl, hrun⟩⟩
    · obtain ⟨ms, hms⟩ := hlast.resolve_left (by rw [now_turn]; exact hbefore.ne)
      exact ⟨ms, by simp [List.getLast?_cons, hms]⟩
  | case2 s t hst hcond =>
    have hsoon : time ≤ k.due t := by
      have := hdue t hst
      omega
    rw [goOn_of_running hst, if_neg hcond]
    obtain ⟨schedule, hrun, hlast⟩ := exists_schedule_wait probe interval
      hle (by simp [canWait, hst, h.handle, h.not_ready ho, Nat.add_sub_cancel' hle, hsoon])
    exact ⟨schedule, hrun, h.handle, rfl, hlast⟩
  | case3 s hst =>
    have hfailed : s.status = .failed := by
      obtain ⟨hspawn, -⟩ | ⟨t, hrunning, -⟩ | ⟨hfailed, -⟩ := h.cases
      · exact absurd hspawn hspawned
      · exact (hst t hrunning).elim
      · exact hfailed
    rw [goOn_of_not_running hst]
    obtain ⟨schedule, hrun, hlast⟩ := exists_schedule_wait probe interval hle
      (by simp [canWait, hfailed])
    exact ⟨schedule, hrun, h.handle, rfl, hlast⟩

/-- The clock of a task gets to every time. -/
theorem reached_running :
    (Monitor.running o k probe interval time).Reached probe interval time := by
  have hstart : (start o k α).OnTime probe interval := onTime_start
  have hon := hstart.turn ho hk hi
  have hnow : ((start o k α).turn probe interval).now = 0 := now_turn _ _ _
  have hle : ((start o k α).turn probe interval).now ≤ time := hnow.le.trans (Nat.zero_le time)
  obtain ⟨schedule, hrun, hheld, htime, hlast⟩ := hon.exists_schedule_goOn ho hk hi hle
    not_spawned_turn fun t ht => hnow.trans_lt (hstart.lt_due_of_turn ho hk hi ht)
  refine ⟨.turn :: schedule, run?_cons.mpr ⟨_, rfl, hrun⟩, hheld, htime, ?_⟩
  obtain hzero | ⟨ms, hms⟩ := hlast
  · exact .inl (hzero.symm.trans hnow)
  · exact .inr ⟨ms, by simp [List.getLast?_cons, hms]⟩

end Ending

end Sampler

/-! ### Monitors -/

namespace Monitor

open Sampler

variable {o : Oneshot} {k : Ticker} {probe : Nat → Option (ResourceSample Float)} {interval stop : Nat}

/-- What comes of a task that the owner lets go at `stop`, given how many ticks there were before. -/
structure Sampled (probe : Nat → Option (ResourceSample Float)) (interval ticks : Nat)
    (s : Sampler o k (ResourceSample Float)) : Prop where
  /-- Until then the probe was called at each tick. -/
  calls : (∀ i < ticks, probe i ≠ none) → s.calls = ticks
  /-- The owner can stop the task, which then has a turn. -/
  stops : (s.run? probe interval [.stop, .turn]).isSome = true
  /-- Stopping gives all readings in their order, of which the last was taken after the stop. -/
  stopped : ∀ readings, (∀ i ≤ ticks, probe i = some (readings i)) → ∀ later s', .turn ∈ later →
    s.run? probe interval (.stop :: later) = some s' →
      outcome (some s') = ⟨(List.range (ticks + 1)).map readings, ticks + 1⟩
  failed : (∃ i ≤ ticks, probe i = none) → ∀ later s', .turn ∈ later →
    s.run? probe interval (.stop :: later) = some s' → (outcome (some s')).samples = []
  dropped : ∀ later s', s.run? probe interval (.drop :: later) = some s' →
    outcome (some s') = ⟨[], s.calls⟩

theorem sampled_of_reached (ho : o.Documented) (hk : k.Documented) (hi : 0 < interval)
    {s : Sampler o k (ResourceSample Float)} (h : s.Reached probe interval stop) :
    Sampled probe interval (ticksBefore interval stop) s where
  calls hok := h.calls_eq ho hk hi (h.not_failed ho hk hi hok)
  stops := by
    rw [run?_stop_turn (h.onTime ho hk hi).handle]
    rfl
  stopped readings hok later s' hturn hrun := by
    obtain ⟨hresult, hcalls⟩ := run?_stop ho hturn hrun
    obtain ⟨hall, hlast⟩ := h.turn_stop ho hk hi hok
    rw [outcome, hresult, hcalls, hall, hlast, Option.getD_some]
  failed hnone later s' hturn hrun := by
    obtain ⟨hresult, -⟩ := run?_stop ho hturn hrun
    rw [outcome, hresult, h.turn_stop_of_none ho hk hi hnone, Option.getD_some]
  dropped later s' hrun := by
    obtain ⟨t, hstep, hrest⟩ := run?_cons.mp hrun
    obtain ⟨-, rfl⟩ := step?_drop.mp hstep
    obtain ⟨hxs, hcalls⟩ := run?_of_dropped rfl (fun _ => h.result?_drop ho hk hi) hrest
    have hsame : s.drop.calls = s.calls := rfl
    rw [outcome, hcalls, hsame]
    cases hresult : s'.result? with
    | none => rfl
    | some xs => rw [hxs xs hresult, Option.getD_some]

/-- A monitor that is stopped at any time has called its probe at every tick before, and calls it once
more; it gives all readings in their order, or none if one of the calls fails.  A monitor whose handle is
dropped calls its probe no more, and one that is switched off gives nothing. -/
theorem sampled_at_ticks (ho : o.Documented) (hk : k.Documented) (hi : 0 < interval)
    (probe : Nat → Option (ResourceSample Float)) (stop : Nat) :
    (running o k probe interval stop).Reached probe interval stop ∧
      (∀ s : Sampler o k (ResourceSample Float), s.Reached probe interval stop →
        Sampled probe interval (ticksBefore interval stop) s) ∧
      (disabled : Outcome (ResourceSample Float)) = ⟨[], 0⟩ ∧ ResourceSummary.of [] = .empty :=
  ⟨reached_running ho hk hi, fun _ hs => sampled_of_reached ho hk hi hs, rfl, rfl⟩

/-- Two readings at ticks, the last one, and another that is not taken. -/
def sampleProbe (i : Nat) : Option (ResourceSample Float) :=
  [⟨10, 100⟩, ⟨20, 150⟩, ⟨30, 120⟩, ⟨40, 90⟩][i]?

theorem sampled_at_ticks_sample : Oneshot.flag.Documented ∧ Ticker.delaying.Documented ∧ 0 < 5000 ∧
    ticksBefore 5000 11000 = 2 ∧
      Sampled sampleProbe 5000 2 (running .flag .delaying sampleProbe 5000 11000) := by
  have hticks : ticksBefore 5000 11000 = 2 := by decide +kernel
  obtain ⟨hreached, hsampled, -⟩ := sampled_at_ticks Oneshot.documented_flag Ticker.documented_delaying
    (by decide : 0 < 5000) sampleProbe 11000
  exact ⟨Oneshot.documented_flag, Ticker.documented_delaying, by decide, hticks,
    hticks ▸ hsampled _ hreached⟩

/-- What is left of a monitor that the program stops. -/
theorem stopped_eq {readings : Nat → ResourceSample Float} (hi : 0 < interval)
    (hok : ∀ i ≤ ticksBefore interval stop, probe i = some (readings i)) :
    stopped probe interval stop =
      ⟨(List.range (ticksBefore interval stop + 1)).map readings, ticksBefore interval stop + 1⟩ := by
  have hreached : (running .flag .delaying probe interval stop).Reached probe interval stop :=
    reached_running Oneshot.documented_flag Ticker.documented_delaying hi
  have hsampled := sampled_of_reached Oneshot.documented_flag Ticker.documented_delaying hi hreached
  obtain ⟨-, -, hheld, -⟩ := hreached
  exact hsampled.stopped readings hok [.turn] _ List.mem_cons_self (run?_stop_turn hheld)

end Monitor

end SuiteBench
