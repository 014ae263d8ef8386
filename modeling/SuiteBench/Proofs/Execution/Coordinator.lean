import SuiteBench.Execution.Coordinator

/-!
# Proofs.Execution.Coordinator — the first signal is what everybody is told

Whatever is done with a coordinator, its clones and its listeners, every wait is answered by the first
signal as soon as there is one.  This rests on what a listener that found the cell empty has still to
be given by the channel, which is the first signal and nothing else.
-/

namespace SuiteBench

/-! ### What is known of a channel -/

namespace Broadcast

variable {α : Type} {b : Broadcast α}

/-- What can be said of the channels of a kind: what a receiver has still to be given, if it is one of
a channel's, and how many senders there are. -/
structure View (b : Broadcast α) where
  unread : b.Channel → b.Receiver → Option (List α)
  senders : b.Channel → Nat

/-- How channels that keep `capacity` values behave: a receiver is given the values that were sent
after it subscribed, in their order, as long as no more than that many are waiting for it; with no
value left it is told whether one can still come. -/
structure View.Documented (v : b.View) (capacity : Nat) : Prop where
  senders_create : v.senders b.create = 1
  senders_addSender (c) : v.senders (b.addSender c) = v.senders c + 1
  unread_addSender (c r) : v.unread (b.addSender c) r = v.unread c r
  senders_dropSender (c) : v.senders (b.dropSender c) = v.senders c - 1
  unread_dropSender (c r) : v.unread (b.dropSender c) r = v.unread c r
  senders_send (c x) : v.senders (b.send c x) = v.senders c
  unread_send {c r xs} (x) (h : v.unread c r = some xs) (hroom : xs.length < capacity) :
    v.unread (b.send c x) r = some (xs ++ [x])
  senders_subscribe (c) : v.senders (b.subscribe c).1 = v.senders c
  unread_subscribe (c) : v.unread (b.subscribe c).1 (b.subscribe c).2 = some []
  /-- A new receiver is none that a channel had. -/
  fresh_subscribe (c) : v.unread c (b.subscribe c).2 = none
  unread_subscribe_of_ne {c r} (h : r ≠ (b.subscribe c).2) :
    v.unread (b.subscribe c).1 r = v.unread c r
  senders_receive (c r) : v.senders (b.receive c r).1 = v.senders c
  receive_value {c r x xs} (h : v.unread c r = some (x :: xs)) (hroom : xs.length < capacity) :
    (b.receive c r).2 = .value x ∧ v.unread (b.receive c r).1 r = some xs
  receive_nothing {c r} (h : v.unread c r = some []) :
    (b.receive c r).2 = (if v.senders c = 0 then .closed else .pending) ∧
      v.unread (b.receive c r).1 r = some []
  unread_receive_of_ne {c r r'} (h : r' ≠ r) : v.unread (b.receive c r).1 r' = v.unread c r'
  senders_dropReceiver (c r) : v.senders (b.dropReceiver c r) = v.senders c
  unread_dropReceiver_of_ne {c r r'} (h : r' ≠ r) :
    v.unread (b.dropReceiver c r) r' = v.unread c r'

end Broadcast

/-! ### Lists in which some entries are gone -/

theorem join_getElem?_concat {β : Type} (xs : List (Option β)) (y : β) (j : Nat) :
    (xs ++ [some y])[j]?.join = if j = xs.length then some y else xs[j]?.join := by
  rcases Nat.lt_trichotomy j xs.length with hlt | rfl | hgt
  · rw [List.getElem?_append_left hlt, if_neg (Nat.ne_of_lt hlt)]
  · rw [List.getElem?_concat_length, if_pos rfl, Option.join_some]
  · rw [List.getElem?_eq_none (by rw [List.length_append]; exact hgt),
      List.getElem?_eq_none (Nat.le_of_lt hgt), if_neg (Nat.ne_of_gt hgt)]

theorem join_getElem?_set {β : Type} {xs : List (Option β)} {i : Nat} {y : β}
    (h : xs[i]?.join = some y) (z : Option β) (j : Nat) :
    (xs.set i z)[j]?.join = if i = j then z else xs[j]?.join := by
  rw [Option.join_eq_some_iff] at h
  rw [List.getElem?_set]
  split
  · rw [if_pos (List.getElem?_eq_some_iff.mp h).1, Option.join_some]
  · rfl

namespace BufferedChannel

variable {α : Type} {c : BufferedChannel α} {r capacity : Nat} {x : α} {xs : List α}

/-- Channels that keep values for each receiver apart, as others see them. -/
def view (α : Type) (capacity : Nat) : (Broadcast.buffered α capacity).View := ⟨unread?, senders⟩

theorem unread?_send (h : c.unread? r = some xs) (x : α) :
    (c.send x).unread? r = some (xs ++ [x]) := by
  rw [unread?, Option.join_eq_some_iff] at h
  rw [unread?, send, List.getElem?_map, h]
  rfl

theorem unread?_subscribe (c : BufferedChannel α) (r : Nat) :
    c.subscribe.unread? r = if r = c.queues.length then some [] else c.unread? r :=
  join_getElem?_concat c.queues [] r

theorem unread?_setUnread (h : c.unread? r = some xs) (queue : Option (List α)) (r' : Nat) :
    (c.setUnread r queue).unread? r' = if r = r' then queue else c.unread? r' :=
  join_getElem?_set h queue r'

theorem receive_cons (h : c.unread? r = some (x :: xs)) (hroom : xs.length < capacity) :
    c.receive r capacity = (c.setUnread r (some xs), .value x) := by
  rw [receive, h]
  exact if_neg (Nat.not_le_of_lt hroom)

theorem receive_nil (h : c.unread? r = some []) :
    c.receive r capacity = (c, if c.senders = 0 then .closed else .pending) := by
  rw [receive, h]

/-- A receiver that asks changes its own queue at most. -/
theorem receive_cases (c : BufferedChannel α) (r capacity : Nat) :
    (c.receive r capacity).1 = c ∨ ∃ queue, (c.receive r capacity).1 = c.setUnread r queue := by
  rw [receive]
  split
  · exact .inl rfl
  · exact .inl rfl
  · split
    · exact .inr ⟨_, rfl⟩
    · exact .inr ⟨_, rfl⟩

theorem unread?_setUnread_of_ne {r' : Nat} (h : r' ≠ r) (queue : Option (List α)) :
    (c.setUnread r queue).unread? r' = c.unread? r' := by
  rw [unread?, setUnread, List.getElem?_set_ne h.symm, unread?]

/-- Channels that keep values for each receiver apart behave as described. -/
theorem documented (α : Type) (capacity : Nat) : (view α capacity).Documented capacity where
  senders_create := rfl
  senders_addSender _ := rfl
  unread_addSender _ _ := rfl
  senders_dropSender _ := rfl
  unread_dropSender _ _ := rfl
  senders_send _ _ := rfl
  unread_send x h _ := unread?_send h x
  senders_subscribe _ := rfl
  unread_subscribe c := (unread?_subscribe c c.queues.length).trans (if_pos rfl)
  fresh_subscribe c := by
    change c.queues[c.queues.length]?.join = none
    rw [List.getElem?_eq_none (Nat.le_refl _), Option.join_none]
  unread_subscribe_of_ne {c r} h := (unread?_subscribe c r).trans (if_neg h)
  senders_receive c r := by
    change (c.receive r capacity).1.senders = c.senders
    obtain h | ⟨queue, h⟩ := receive_cases c r capacity <;> rw [h]
    rfl
  receive_value {c r x xs} h hroom := by
    change (c.receive r capacity).2 = .value x ∧ (c.receive r capacity).1.unread? r = some xs
    rw [receive_cons h hroom]
    exact ⟨rfl, (unread?_setUnread h _ r).trans (if_pos rfl)⟩
  receive_nothing {c r} h := by
    change (c.receive r capacity).2 = _ ∧ (c.receive r capacity).1.unread? r = some []
    rw [receive_nil h]
    exact ⟨rfl, h⟩
  unread_receive_of_ne {c r r'} hne := by
    change (c.receive r capacity).1.unread? r' = c.unread? r'
    obtain h | ⟨queue, h⟩ := receive_cases c r capacity <;> rw [h]
    exact unread?_setUnread_of_ne hne queue
  senders_dropReceiver _ _ := rfl
  unread_dropReceiver_of_ne h := unread?_setUnread_of_ne h none

end BufferedChannel

/-! ### Schedules -/

/-- The signal that an action brings. -/
def ShutdownAction.signal? : ShutdownAction → Option Signal
  | .trigger x => some x
  | _ => none

/-- The first signal that a schedule brings. -/
def firstSignal (schedule : List ShutdownAction) : Option Signal :=
  schedule.findSome? ShutdownAction.signal?

theorem or_firstSignal_cons (x : Option Signal) (a : ShutdownAction)
    (schedule : List ShutdownAction) :
    x.or (firstSignal (a :: schedule)) = (x.or a.signal?).or (firstSignal schedule) := by
  rw [firstSignal, List.findSome?_cons, Option.or_assoc]
  cases a.signal? <;> rfl

theorem firstSignal_isSome_iff (schedule : List ShutdownAction) :
    (firstSignal schedule).isSome = true ↔ ∃ y, .trigger y ∈ schedule := by
  rw [firstSignal, List.findSome?_isSome_iff]
  constructor
  · rintro ⟨a, ha, hsome⟩
    cases a with
    | trigger y => exact ⟨y, ha⟩
    | _ => cases hsome
  · rintro ⟨y, hy⟩
    exact ⟨_, hy, rfl⟩

/-- Of several signals only the first is kept. -/
theorem Shutdown.foldl_trigger (d : Shutdown) (xs : List Signal) :
    xs.foldl trigger d = { d with fired := d.fired.or xs.head? } := by
  induction xs generalizing d with
  | nil => rw [List.foldl_nil, List.head?_nil, Option.or_none]
  | cons x xs ih =>
    rw [List.foldl_cons, ih, trigger, Option.or_assoc, Option.some_or, List.head?_cons]

namespace Coordinator

variable {b : Broadcast Signal} {v : b.View} {s s' : Coordinator b} {x o : Option Signal}
  {i j : Nat} {l l' : Listener b} {phase : ListenerPhase} {a : ShutdownAction}
  {schedule later : List ShutdownAction}

theorem run?_cons : s.run? (a :: schedule) = some s' ↔
    ∃ o t, s.step? a = some (o, t) ∧ t.run? schedule = some s' := by
  rw [run?, List.foldlM_cons]
  cases hstep : s.step? a with
  | none => simp
  | some y =>
    refine ⟨fun h => ⟨y.1, y.2, rfl, h⟩, ?_⟩
    rintro ⟨o, t, hy, h⟩
    cases hy
    exact h

theorem listener?_leave (h : s.listener? i = some l) :
    (s.leave i l).listener? j = if i = j then none else s.listener? j :=
  join_getElem?_set h none j

theorem listener?_subscribe : s.subscribe.listener? j =
    if j = s.listeners.length then some ⟨(b.subscribe s.channel).2, .idle⟩ else s.listener? j :=
  join_getElem?_concat s.listeners _ j

/-! ### What every listener has still to be given -/

/-- How a listener stands to the first signal: the channel has nothing else for it, and if it found
the cell empty it has still to be given that signal. -/
structure Listens (v : b.View) (x : Option Signal) (s : Coordinator b) (l : Listener b) : Prop where
  unread : v.unread s.channel l.receiver = some [] ∨ v.unread s.channel l.receiver = some x.toList
  receiving : l.phase = .receiving → v.unread s.channel l.receiver = some x.toList
  /-- A wait that never ends has found nobody who could still bring a signal. -/
  parked : l.phase = .parked → x = none ∧ s.clones = 0

/-- How a coordinator stands to the first signal. -/
structure Tells (v : b.View) (x : Option Signal) (s : Coordinator b) : Prop where
  cell : s.cell = x
  senders : v.senders s.channel = s.clones
  listens : ∀ i l, s.listener? i = some l → Listens v x s l
  /-- No two listeners share a receiver. -/
  distinct : ∀ i j l l', s.listener? i = some l → s.listener? j = some l' →
    l.receiver = l'.receiver → i = j

/-- A listener is told the same where nothing has changed for it. -/
theorem Listens.of_eq (h : Listens v x s l)
    (hunread : v.unread s'.channel l.receiver = v.unread s.channel l.receiver)
    (hclones : s.clones = 0 → s'.clones = 0) : Listens v x s' l where
  unread := by rw [hunread]; exact h.unread
  receiving hphase := by rw [hunread]; exact h.receiving hphase
  parked hphase := (h.parked hphase).imp_right hclones

/-- A listener has its turn, in which nothing changes for the others. -/
theorem Tells.turn (h : Tells v x s) (hi : s.listener? i = some l) (hl : l'.receiver = l.receiver)
    (hlisteners : ∀ j, s'.listener? j = if i = j then some l' else s.listener? j)
    (hcell : s'.cell = s.cell) (hclones : s'.clones = s.clones)
    (hsenders : v.senders s'.channel = v.senders s.channel)
    (hothers : ∀ r, r ≠ l.receiver → v.unread s'.channel r = v.unread s.channel r)
    (hlistens : Listens v x s' l') : Tells v x s' where
  cell := hcell.trans h.cell
  senders := by rw [hsenders, hclones, h.senders]
  listens j m hj := by
    rw [hlisteners] at hj
    split at hj
    · cases hj
      exact hlistens
    · next hne =>
      have hother : m.receiver ≠ l.receiver := fun he => hne (h.distinct j i m l hj hi he).symm
      exact (h.listens j m hj).of_eq (hothers _ hother) (by rw [hclones]; exact id)
  distinct j k m m' hj hk he := by
    -- both listeners can be looked up as they were, with the same receivers
    have hold (j : Nat) (m : Listener b) (hj : s'.listener? j = some m) :
        ∃ m₀, s.listener? j = some m₀ ∧ m₀.receiver = m.receiver := by
      rw [hlisteners] at hj
      split at hj
      · next heq =>
        cases hj
        exact ⟨l, heq ▸ hi, hl.symm⟩
      · exact ⟨m, hj, rfl⟩
    obtain ⟨m₀, hm₀, hm⟩ := hold j m hj
    obtain ⟨m₁, hm₁, hm'⟩ := hold k m' hk
    exact h.distinct j k m₀ m₁ hm₀ hm₁ (by rw [hm, hm', he])

/-- The same when its turn puts the listener into another phase. -/
theorem Tells.setPhase {c : b.Channel} (h : Tells v x s) (hi : s.listener? i = some l)
    (hsenders : v.senders c = v.senders s.channel)
    (hothers : ∀ r, r ≠ l.receiver → v.unread c r = v.unread s.channel r)
    (hlistens : Listens v x { s with channel := c } { l with phase }) :
    Tells v x ({ s with channel := c }.setPhase i l phase) := by
  have hlisteners (j : Nat) : ({ s with channel := c }.setPhase i l phase).listener? j =
      if i = j then some { l with phase } else s.listener? j := join_getElem?_set hi _ j
  refine h.turn hi ?_ hlisteners rfl rfl hsenders hothers
    ⟨hlistens.unread, hlistens.receiving, hlistens.parked⟩
  rfl

section Documented

variable (hv : v.Documented capacity)
include hv

theorem tells_start : Tells v none (start b) where
  cell := rfl
  senders := hv.senders_create
  listens i l h := by simp [listener?, start] at h
  distinct i j l l' h := by simp [listener?, start] at h

theorem Tells.clone (h : Tells v x s) (hclones : 0 < s.clones) :
    Tells v x { s with clones := s.clones + 1, channel := b.addSender s.channel } where
  cell := h.cell
  senders := by rw [hv.senders_addSender, h.senders]
  listens i l hi := (h.listens i l hi).of_eq (hv.unread_addSender _ _) (by omega)
  distinct := h.distinct

theorem Tells.release (h : Tells v x s) (hclones : 0 < s.clones) :
    Tells v x { s with clones := s.clones - 1, channel := b.dropSender s.channel } where
  cell := h.cell
  senders := by rw [hv.senders_dropSender, h.senders]
  listens i l hi := (h.listens i l hi).of_eq (hv.unread_dropSender _ _) (by omega)
  distinct := h.distinct

theorem Tells.trigger (h : Tells v x s) (hclones : 0 < s.clones) (y : Signal) :
    Tells v (x.or (some y)) (s.trigger y) := by
  cases x with
  | some x =>
    have hsame : s.trigger y = s := by rw [Coordinator.trigger, h.cell]
    rw [hsame]
    exact h
  | none =>
    have hsent : s.trigger y = { s with cell := some y, channel := b.send s.channel y } := by
      rw [Coordinator.trigger, h.cell]
    rw [hsent]
    refine ⟨rfl, ?_, fun i l hi => ?_, h.distinct⟩
    · rw [hv.senders_send, h.senders]
    · -- nothing was sent before, so the signal is all that the listener has still to be given
      have hl := h.listens i l hi
      have hunread : v.unread (b.send s.channel y) l.receiver = some [y] :=
        hv.unread_send y (hl.unread.elim id id) (by decide)
      exact ⟨.inr hunread, fun _ => hunread, fun hp => absurd (hl.parked hp).2 (by omega)⟩

theorem Tells.subscribe (h : Tells v x s) : Tells v x s.subscribe := by
  -- the new receiver is none of those that the channel had
  have hfresh (j : Nat) (m : Listener b) (hj : s.listener? j = some m) :
      m.receiver ≠ (b.subscribe s.channel).2 := fun he => by
    have hnone := hv.fresh_subscribe s.channel
    rw [← he] at hnone
    obtain hu | hu := (h.listens j m hj).unread <;> rw [hnone] at hu <;> cases hu
  refine ⟨h.cell, (hv.senders_subscribe _).trans h.senders, fun j m hj => ?_, ?_⟩
  · rw [listener?_subscribe] at hj
    split at hj
    · cases hj
      exact ⟨.inl (hv.unread_subscribe _), nofun, nofun⟩
    · exact (h.listens j m hj).of_eq (hv.unread_subscribe_of_ne (hfresh j m hj)) id
  · intro j k m m' hj hk he
    rw [listener?_subscribe] at hj hk
    split at hj <;> split at hk
    · next hj' hk' => rw [hj', hk']
    · cases hj
      exact absurd he.symm (hfresh k m' hk)
    · cases hk
      exact absurd he (hfresh j m hj)
    · exact h.distinct j k m m' hj hk he

theorem Tells.leave (h : Tells v x s) (hi : s.listener? i = some l) : Tells v x (s.leave i l) := by
  have hold {j : Nat} {m : Listener b} (hj : (s.leave i l).listener? j = some m) :
      i ≠ j ∧ s.listener? j = some m := by
    rw [listener?_leave hi] at hj
    split at hj
    · cases hj
    · next hne => exact ⟨hne, hj⟩
  refine ⟨h.cell, (hv.senders_dropReceiver _ _).trans h.senders, fun j m hj => ?_, ?_⟩
  · obtain ⟨hne, hj⟩ := hold hj
    have hother : m.receiver ≠ l.receiver := fun he => hne (h.distinct j i m l hj hi he).symm
    exact (h.listens j m hj).of_eq (hv.unread_dropReceiver_of_ne hother) id
  · intro j k m m' hj hk he
    exact h.distinct j k m m' (hold hj).2 (hold hk).2 he

end Documented

/-! ### What a wait yields -/

/-- A wait that begins yields the first signal at once, if there is one. -/
theorem Tells.wait (h : Tells v x s) (hi : s.listener? i = some l) :
    (s.wait i l).1 = x ∧ Tells v x (s.wait i l).2 := by
  have hl := h.listens i l hi
  cases x with
  | some x =>
    have hwait : s.wait i l = (some x, s.setPhase i l .idle) := by rw [Coordinator.wait, h.cell]
    rw [hwait]
    exact ⟨rfl, h.setPhase hi rfl (fun _ _ => rfl) ⟨hl.unread, nofun, nofun⟩⟩
  | none =>
    have hwait : s.wait i l = (none, s.setPhase i l .receiving) := by
      rw [Coordinator.wait, h.cell]
    rw [hwait]
    exact ⟨rfl, h.setPhase hi rfl (fun _ _ => rfl)
      ⟨hl.unread, fun _ => hl.unread.elim id id, nofun⟩⟩

/-- A wait that asks the channel yields the first signal, if there is one. -/
theorem Tells.receive (hv : v.Documented capacity) (h : Tells v x s) (hi : s.listener? i = some l)
    (hphase : l.phase = .receiving) :
    (s.receive i l).1 = x ∧ Tells v x (s.receive i l).2 := by
  have hunread := (h.listens i l hi).receiving hphase
  have hothers (r : b.Receiver) (hr : r ≠ l.receiver) :
      v.unread (b.receive s.channel l.receiver).1 r = v.unread s.channel r :=
    hv.unread_receive_of_ne hr
  have hsenders := hv.senders_receive s.channel l.receiver
  cases x with
  | some x =>
    obtain ⟨htold, hrest⟩ := hv.receive_value hunread (by decide)
    have hreceive : s.receive i l = (some x,
        { s with channel := (b.receive s.channel l.receiver).1 }.setPhase i l .idle) := by
      rw [Coordinator.receive, htold]
    rw [hreceive]
    exact ⟨rfl, h.setPhase hi hsenders hothers ⟨.inl hrest, nofun, nofun⟩⟩
  | none =>
    obtain ⟨htold, hrest⟩ := hv.receive_nothing hunread
    have hcell : s.cell = none := h.cell
    rw [h.senders] at htold
    by_cases hclones : s.clones = 0
    · rw [if_pos hclones] at htold
      have hreceive : s.receive i l = (none,
          { s with channel := (b.receive s.channel l.receiver).1 }.setPhase i l .parked) := by
        simp only [Coordinator.receive, htold, hcell]
      rw [hreceive]
      exact ⟨rfl, h.setPhase hi hsenders hothers ⟨.inl hrest, nofun, fun _ => ⟨rfl, hclones⟩⟩⟩
    · rw [if_neg hclones] at htold
      have hreceive : s.receive i l =
          (none, { s with channel := (b.receive s.channel l.receiver).1 }) := by
        simp only [Coordinator.receive, htold]
      rw [hreceive]
      refine ⟨rfl, h.turn hi rfl (fun j => ?_) rfl rfl hsenders hothers
        ⟨.inl hrest, fun _ => hrest, fun hp => ?_⟩⟩
      · split
        · next heq => exact heq ▸ hi
        · rfl
      · rw [hphase] at hp
        cases hp

/-- A wait that goes on yields the first signal, if there is one. -/
theorem Tells.poll (hv : v.Documented capacity) (h : Tells v x s) (hi : s.listener? i = some l)
    (hphase : l.phase ≠ .idle) : ∃ t, s.step? (.poll i) = some (x, t) ∧ Tells v x t := by
  cases hl : l.phase with
  | idle => exact absurd hl hphase
  | receiving =>
    obtain ⟨hyields, hleaves⟩ := h.receive hv hi hl
    refine ⟨_, ?_, hleaves⟩
    rw [step?, hi, Option.bind_some, hl, ← hyields]
  | parked =>
    obtain ⟨rfl, -⟩ := (h.listens i l hi).parked hl
    refine ⟨s, ?_, h⟩
    rw [step?, hi, Option.bind_some, hl]

/-- An action brings its signal, which counts if it is the first. -/
theorem Tells.step (hv : v.Documented capacity) (h : Tells v x s) (hstep : s.step? a = some (o, s')) :
    Tells v (x.or a.signal?) s' := by
  cases a with
  | trigger y =>
    obtain ⟨hclones, heq⟩ := Option.ite_none_right_eq_some.mp hstep
    cases heq
    exact h.trigger hv hclones y
  | clone =>
    obtain ⟨hclones, heq⟩ := Option.ite_none_right_eq_some.mp hstep
    cases heq
    simp only [ShutdownAction.signal?, Option.or_none]
    exact h.clone hv hclones
  | release =>
    obtain ⟨hclones, heq⟩ := Option.ite_none_right_eq_some.mp hstep
    cases heq
    simp only [ShutdownAction.signal?, Option.or_none]
    exact h.release hv hclones
  | subscribe =>
    obtain ⟨-, heq⟩ := Option.ite_none_right_eq_some.mp hstep
    cases heq
    simp only [ShutdownAction.signal?, Option.or_none]
    exact h.subscribe hv
  | wait i =>
    obtain ⟨l, hi, heq⟩ := Option.map_eq_some_iff.mp hstep
    have hwait := (h.wait hi).2
    rw [heq] at hwait
    simp only [ShutdownAction.signal?, Option.or_none]
    exact hwait
  | poll i =>
    obtain ⟨l, hi, hpoll⟩ := Option.bind_eq_some_iff.mp hstep
    have hphase : l.phase ≠ .idle := fun hidle => by
      rw [hidle] at hpoll
      cases hpoll
    obtain ⟨t, ht, htells⟩ := h.poll hv hi hphase
    rw [hstep] at ht
    cases ht
    simp only [ShutdownAction.signal?, Option.or_none]
    exact htells
  | leave i =>
    obtain ⟨l, hi, heq⟩ := Option.map_eq_some_iff.mp hstep
    cases heq
    simp only [ShutdownAction.signal?, Option.or_none]
    exact h.leave hv hi

/-- So does a schedule. -/
theorem Tells.run (hv : v.Documented capacity) (h : Tells v x s) (hrun : s.run? schedule = some s') :
    Tells v (x.or (firstSignal schedule)) s' := by
  induction schedule generalizing x s with
  | nil =>
    cases hrun
    rw [firstSignal, List.findSome?_nil, Option.or_none]
    exact h
  | cons a schedule ih =>
    obtain ⟨o, t, hstep, hrest⟩ := run?_cons.mp hrun
    rw [or_firstSignal_cons]
    exact ih (h.step hv hstep) hrest

/-! ### Which actions are possible -/

theorem clones_trigger (s : Coordinator b) (y : Signal) : (s.trigger y).clones = s.clones := by
  rw [trigger]
  split <;> rfl

theorem clones_wait (s : Coordinator b) : (s.wait i l).2.clones = s.clones := by
  rw [wait]
  split <;> rfl

theorem clones_receive (s : Coordinator b) : (s.receive i l).2.clones = s.clones := by
  simp only [receive]
  split
  · rfl
  · rfl
  · rfl
  · split <;> rfl

/-- Only dropping a clone leaves fewer of them. -/
theorem clones_le_of_step (ha : a ≠ .release) (hstep : s.step? a = some (o, s')) :
    s.clones ≤ s'.clones := by
  cases a with
  | release => exact absurd rfl ha
  | clone =>
    cases (Option.ite_none_right_eq_some.mp hstep).2
    exact Nat.le_succ _
  | trigger y =>
    cases (Option.ite_none_right_eq_some.mp hstep).2
    exact Nat.le_of_eq (clones_trigger s y).symm
  | subscribe =>
    cases (Option.ite_none_right_eq_some.mp hstep).2
    exact Nat.le_refl _
  | wait i =>
    obtain ⟨l, -, heq⟩ := Option.map_eq_some_iff.mp hstep
    exact Nat.le_of_eq (by rw [← clones_wait s, heq])
  | poll i =>
    obtain ⟨l, -, heq⟩ := Option.bind_eq_some_iff.mp hstep
    split at heq
    · cases heq
    · exact Nat.le_of_eq (by rw [← clones_receive s, Option.some.inj heq])
    · cases heq
      exact Nat.le_refl _
  | leave i =>
    obtain ⟨l, -, heq⟩ := Option.map_eq_some_iff.mp hstep
    cases heq
    exact Nat.le_refl _

theorem clones_pos (hs : 0 < s.clones) (hrun : s.run? schedule = some s')
    (hkept : .release ∉ schedule) : 0 < s'.clones := by
  induction schedule generalizing s with
  | nil =>
    cases hrun
    exact hs
  | cons a schedule ih =>
    obtain ⟨o, t, hstep, hrest⟩ := run?_cons.mp hrun
    rw [List.mem_cons, not_or] at hkept
    exact ih (Nat.lt_of_lt_of_le hs (clones_le_of_step (Ne.symm hkept.1) hstep)) hrest hkept.2

/-- The first signal wins, for everybody: after any schedule a coordinator shows the first signal that
the schedule brought, and so does every wait of a listener, whether it begins or goes on and whenever
the listener subscribed; without a signal every wait is pending.  What has been shown stays, and it is
what the rest of a run keeps of the signals that came.  While no clone has been dropped a signal can
come and a listener can subscribe at any time. -/
theorem wait_yields_firstSignal (hv : v.Documented capacity)
    (hrun : (start b).run? schedule = some s) :
    s.signal = firstSignal schedule ∧
      (s.isShuttingDown = true ↔ ∃ y, ShutdownAction.trigger y ∈ schedule) ∧
      (∀ i l, s.listener? i = some l →
        (∃ t, s.step? (.wait i) = some (firstSignal schedule, t)) ∧
        (l.phase ≠ .idle → ∃ t, s.step? (.poll i) = some (firstSignal schedule, t))) ∧
      (∀ later t, s.run? later = some t → ∀ y, s.signal = some y →
        t.signal = some y ∧ t.isShuttingDown = true) ∧
      s.shutdown = (schedule.filterMap ShutdownAction.signal?).foldl Shutdown.trigger .quiet ∧
      (.release ∉ schedule →
        (∀ y, (s.step? (.trigger y)).isSome = true) ∧ (s.step? .subscribe).isSome = true) := by
  have htells : Tells v (firstSignal schedule) s := by
    have h := (tells_start hv).run hv hrun
    rwa [Option.none_or] at h
  refine ⟨htells.cell, ?_, fun i l hi => ⟨?_, fun hphase => ?_⟩, fun later t hlater y hy => ?_, ?_,
    fun hkept => ?_⟩
  · rw [isShuttingDown, htells.cell, firstSignal_isSome_iff]
  · exact ⟨_, by rw [step?, hi, Option.map_some, ← (htells.wait hi).1]⟩
  · obtain ⟨t, ht, -⟩ := htells.poll hv hi hphase
    exact ⟨t, ht⟩
  · have hx : firstSignal schedule = some y := htells.cell.symm.trans hy
    have hcell := (htells.run hv hlater).cell
    rw [hx, Option.some_or] at hcell
    exact ⟨hcell, by rw [isShuttingDown, hcell]; rfl⟩
  · rw [Shutdown.foldl_trigger, List.head?_filterMap, shutdown, htells.cell, firstSignal,
      Shutdown.quiet, Option.none_or]
  · have hpos := clones_pos (Nat.zero_lt_one : 0 < (start b).clones) hrun hkept
    exact ⟨fun y => by rw [step?, if_pos hpos]; rfl, by rw [step?, if_pos hpos]; rfl⟩

/-- A listener that waits before the signals come, and one that subscribes after them. -/
def twoListeners : List ShutdownAction :=
  [.subscribe, .wait 0, .poll 0, .clone, .trigger .terminate, .trigger .interrupt, .subscribe]

theorem wait_yields_terminate : ∃ s t u,
    (start (.buffered Signal capacity)).run? twoListeners = some s ∧
      s.signal = some .terminate ∧ s.step? (.poll 0) = some (some .terminate, t) ∧
      s.step? (.wait 1) = some (some .terminate, u) := by
  have hphases : ((start (.buffered Signal capacity)).run? twoListeners).map
      (fun s => ((s.listener? 0).map (·.phase), (s.listener? 1).map (·.phase))) =
        some (some .receiving, some .idle) := by decide
  obtain ⟨s, hrun, hs⟩ := Option.map_eq_some_iff.mp hphases
  obtain ⟨hwaiting, hlate⟩ := Prod.mk.inj hs
  obtain ⟨l, hl, hphase⟩ := Option.map_eq_some_iff.mp hwaiting
  obtain ⟨l', hl', -⟩ := Option.map_eq_some_iff.mp hlate
  obtain ⟨hsignal, -, hwaits, -⟩ :=
    wait_yields_firstSignal (BufferedChannel.documented Signal capacity) hrun
  obtain ⟨t, ht⟩ := (hwaits 0 l hl).2 (by rw [hphase]; decide)
  obtain ⟨u, hu⟩ := (hwaits 1 l' hl').1
  exact ⟨s, t, u, hrun, hsignal, ht, hu⟩

end Coordinator

end SuiteBench
