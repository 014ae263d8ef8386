import SuiteBench.Proofs.Store.Tree
import SuiteBench.Yaml.Decoder

/-!
# Proofs.Yaml.Reading — what a reading of a node depends on

A reading counts the aliases that it follows and stops when they are too many.  The count decides whether
there is a value, and never which: a reading that gives a value gives the same one where fewer aliases have
been followed.  What a field of a mapping means is therefore known from its node alone.
-/

namespace SuiteBench.Yaml

variable {α β : Type} {d : Document}

namespace Reading

variable {r : Reading α} {f : α → Reading β} {a : α} {b : β} {k k' : Nat}

/-! ### Readings one after the other -/

theorem bind_eq_some : (r >>= f) d k = some (b, k') ↔
    ∃ a k₁, r d k = some (a, k₁) ∧ f a d k₁ = some (b, k') := by
  change (r d k).bind (fun p => f p.1 d p.2) = some (b, k') ↔ _
  rw [Option.bind_eq_some_iff]
  exact ⟨fun ⟨p, hp, hf⟩ => ⟨p.1, p.2, hp, hf⟩, fun ⟨a, k₁, hr, hf⟩ => ⟨(a, k₁), hr, hf⟩⟩

theorem pure_eq_some {a' : α} : (pure a' : Reading α) d k = some (a, k') ↔ a' = a ∧ k = k' := by
  change some (a', k) = some (a, k') ↔ _
  rw [Option.some_inj, Prod.mk.injEq]

theorem ofOption_eq_some {a? : Option α} :
    ofOption a? d k = some (a, k') ↔ a? = some a ∧ k = k' := by
  cases a? <;> simp [ofOption]

theorem fail_ne_some : (fail : Reading α) d k ≠ some (a, k') := nofun

/-- A value from any count is the value of a run. -/
theorem run_eq_some : run r d = some a ↔ ∃ k', r d 0 = some (a, k') := by
  rw [run, Option.map_eq_some_iff]
  exact ⟨fun ⟨p, hp, ha⟩ => ⟨p.2, by rw [hp, ← ha]⟩, fun ⟨k', h⟩ => ⟨_, h, rfl⟩⟩

/-! ### The aliases followed before -/

/-- Whether a reading that gives a value gives it also where fewer aliases have been followed. -/
def Steady (r : Reading α) : Prop :=
  ∀ ⦃d : Document⦄ ⦃j k : Nat⦄ ⦃a : α⦄ ⦃k' : Nat⦄, j ≤ k → r d k = some (a, k') →
    ∃ j' ≤ k', r d j = some (a, j')

/-- A value that a steady reading gives at any count is the value of its run. -/
theorem Steady.run (hr : Steady r) (h : r d k = some (a, k')) : Reading.run r d = some a :=
  have ⟨j', _, hj⟩ := hr (Nat.zero_le k) h
  run_eq_some.mpr ⟨j', hj⟩

theorem steady_ofOption (a? : Option α) : Steady (ofOption a?) := by
  intro d j k a k' hjk h
  obtain ⟨ha, rfl⟩ := ofOption_eq_some.mp h
  exact ⟨j, hjk, ofOption_eq_some.mpr ⟨ha, rfl⟩⟩

theorem steady_pure (a : α) : Steady (pure a) := steady_ofOption (some a)

theorem steady_fail : Steady (fail : Reading α) := steady_ofOption none

theorem Steady.bind (hr : Steady r) (hf : ∀ a, Steady (f a)) : Steady (r >>= f) := by
  intro d j k b k' hjk h
  obtain ⟨a, k₁, hfirst, hthen⟩ := bind_eq_some.mp h
  obtain ⟨j₁, hj₁, hfirst⟩ := hr hjk hfirst
  obtain ⟨j', hj', hthen⟩ := hf a hj₁ hthen
  exact ⟨j', hj', bind_eq_some.mpr ⟨a, j₁, hfirst, hthen⟩⟩

theorem steady_mapM {xs : List β} {f : β → Reading α} (hf : ∀ x ∈ xs, Steady (f x)) :
    Steady (xs.mapM f) := by
  induction xs with
  | nil => exact steady_pure []
  | cons x xs ih =>
    obtain ⟨hx, hxs⟩ := List.forall_mem_cons.mp hf
    rw [List.mapM_cons]
    exact hx.bind fun y => (ih hxs).bind fun ys => steady_pure (y :: ys)

theorem steady_follow (n : Node) : Steady (follow n) := by
  cases n with
  | «alias» mark =>
    intro d j k target k' hjk h
    simp only [follow] at h ⊢
    split at h
    · cases h
    · obtain ⟨node, hnode, heq⟩ := Option.map_eq_some_iff.mp h
      obtain ⟨rfl, rfl⟩ := Prod.mk.inj heq
      exact ⟨j + 1, by omega, by rw [if_neg (by omega), hnode, Option.map_some]⟩
  | _ => exact steady_pure _

end Reading

open Reading

namespace Node

/-! ### Values of single nodes -/

theorem steady_text (n : Node) : Steady n.text :=
  (steady_follow n).bind fun m => by cases m <;> first | exact steady_pure _ | exact steady_fail

theorem steady_nat (bound : Nat) (n : Node) : Steady (n.nat bound) :=
  (steady_follow n).bind fun _ => steady_ofOption _

theorem steady_int (bound : Nat) (n : Node) : Steady (n.int bound) :=
  (steady_follow n).bind fun _ => steady_ofOption _

theorem steady_bool (n : Node) : Steady n.bool := (steady_follow n).bind fun _ => steady_ofOption _

theorem steady_optionalText (n : Node) : Steady n.optionalText :=
  (steady_follow n).bind fun _ => steady_ofOption _

theorem steady_named (ofName? : String → Option α) (n : Node) : Steady (n.named ofName?) :=
  (steady_follow n).bind fun _ => steady_ofOption _

theorem steady_list {decode : Node → Reading α} (h : ∀ n, Steady (decode n)) (n : Node) :
    Steady (n.list decode) := by
  refine (steady_follow n).bind fun m => ?_
  have hnothing : Steady (if m.isNothing then pure [] else fail : Reading (List α)) := by
    split
    · exact steady_pure []
    · exact steady_fail
  cases m with
  | sequence tag items => exact steady_mapM fun item _ => h item
  | _ => exact hnothing

theorem steady_pairs (n : Node) : Steady n.pairs := by
  refine (steady_follow n).bind fun m => ?_
  have hnothing : Steady (if m.isNothing then pure [] else fail : Reading (List (String × Node))) := by
    split
    · exact steady_pure []
    · exact steady_fail
  cases m with
  | mapping tag ps => exact steady_mapM fun p _ => (steady_text p.1).bind fun key => steady_pure _
  | _ => exact hnothing

theorem value_zero (n : Node) : n.value 0 = follow n >>= fun m =>
    match m with
    | .scalar tag style s => ofOption (scalarValue? tag style s)
    | _ => fail := by
  delta Node.value
  refine bind_congr fun m => ?_
  cases m <;> rfl

theorem value_succ (depth : Nat) (n : Node) : n.value (depth + 1) = follow n >>= fun m =>
    match m with
    | .scalar tag style s => ofOption (scalarValue? tag style s)
    | .sequence tag items =>
      if isOwnTag tag then fail else do return .list (← items.mapM (value depth))
    | .mapping tag ps =>
      if isOwnTag tag then fail
      else do return .map (← ps.mapM fun (k, v) => do return (← value depth k, ← value depth v))
    | .alias _ => fail := by
  delta Node.value
  refine bind_congr fun m => ?_
  cases m <;> rfl

theorem steady_value (depth : Nat) (n : Node) : Steady (n.value depth) := by
  induction depth generalizing n with
  | zero =>
    rw [value_zero]
    refine (steady_follow n).bind fun m => ?_
    cases m <;> exact steady_ofOption _
  | succ depth ih =>
    rw [value_succ]
    refine (steady_follow n).bind fun m => ?_
    cases m with
    | scalar => exact steady_ofOption _
    | «alias» => exact steady_fail
    | sequence tag items =>
      dsimp only
      split
      · exact steady_fail
      · exact (steady_mapM fun item _ => ih item).bind fun _ => steady_pure _
    | mapping tag ps =>
      dsimp only
      split
      · exact steady_fail
      · exact (steady_mapM fun p _ => (ih p.1).bind fun _ => (ih p.2).bind fun _ =>
          steady_pure _).bind fun _ => steady_pure _

end Node

/-! ### The nodes of a document -/

namespace Document

/-- The node itself, or the one that an alias stands for. -/
def target? (d : Document) : Node → Option Node
  | .alias mark => d.marked.lookup mark
  | n => some n

/-- The text of a scalar, also behind an alias. -/
def textOf? (d : Document) (n : Node) : Option String :=
  match d.target? n with
  | some (.scalar _ _ s) => some s
  | _ => none

/-- The node that stands behind a key of a mapping. -/
def member? (d : Document) (n : Node) (key : String) : Option Node :=
  match d.target? n with
  | some (.mapping _ ps) => (ps.find? fun p => d.textOf? p.1 == some key).map (·.2)
  | _ => none

/-- The node at the end of a path of keys. -/
def at? (d : Document) (path : List String) : Option Node := path.foldlM d.member? d.root

end Document

section Fields

variable {n m : Node} {k k' : Nat} {key : String} {names : List String} {fs : List (String × Node)}

theorem target?_of_follow (h : follow n d k = some (m, k')) : d.target? n = some m := by
  cases n with
  | «alias» mark =>
    rw [follow] at h
    dsimp only at h
    split at h
    · cases h
    · obtain ⟨node, hnode, heq⟩ := Option.map_eq_some_iff.mp h
      obtain ⟨rfl, -⟩ := Prod.mk.inj heq
      exact hnode
  | _ =>
    obtain ⟨rfl, -⟩ := pure_eq_some.mp h
    rfl

theorem textOf?_of_text {s : String} (h : n.text d k = some (s, k')) : d.textOf? n = some s := by
  obtain ⟨m, k₁, hm, hs⟩ := bind_eq_some.mp h
  rw [Document.textOf?, target?_of_follow hm]
  cases m with
  | scalar tag style t =>
    obtain ⟨rfl, -⟩ := pure_eq_some.mp hs
    rfl
  | _ => exact absurd hs fail_ne_some

/-- The first pair with a key is the first one whose key writes it. -/
theorem lookup_keyed {ps : List (Node × Node)} {k k' : Nat} {qs : List (String × Node)}
    (h : (ps.mapM fun (k, v) => do return (← k.text, v) : Reading _) d k = some (qs, k')) :
    qs.lookup key = (ps.find? fun p => d.textOf? p.1 == some key).map (·.2) := by
  induction ps generalizing k k' qs with
  | nil =>
    obtain ⟨rfl, -⟩ := pure_eq_some.mp h
    rfl
  | cons p ps ih =>
    rw [List.mapM_cons] at h
    obtain ⟨q, k₁, hq, h⟩ := bind_eq_some.mp h
    obtain ⟨qs', k₂, hqs, h⟩ := bind_eq_some.mp h
    obtain ⟨s, k₃, hs, hq⟩ := bind_eq_some.mp hq
    obtain ⟨rfl, -⟩ := pure_eq_some.mp h
    obtain ⟨rfl, -⟩ := pure_eq_some.mp hq
    rw [List.lookup_cons, List.find?_cons, textOf?_of_text hs, ih hqs]
    by_cases hkey : key = s
    · simp [hkey]
    · simp only [beq_false_of_ne hkey, beq_false_of_ne (Ne.symm hkey), Option.some_beq_some]

theorem lookup_pairs (h : n.pairs d k = some (fs, k')) : fs.lookup key = d.member? n key := by
  obtain ⟨m, k₁, hm, h⟩ := bind_eq_some.mp h
  rw [Document.member?, target?_of_follow hm]
  cases m with
  | mapping tag ps => exact lookup_keyed h
  | _ =>
    dsimp only at h
    split at h
    · obtain ⟨rfl, -⟩ := pure_eq_some.mp h
      rfl
    · exact absurd h fail_ne_some

/-- The fields that are read are those of the mapping. -/
theorem lookup_fields (h : n.fields names d k = some (fs, k')) (hkey : key ∈ names) :
    fs.lookup key = d.member? n key := by
  obtain ⟨qs, k₁, hqs, h⟩ := bind_eq_some.mp h
  rw [← lookup_pairs hqs]
  split at h
  · obtain ⟨rfl, -⟩ := pure_eq_some.mp h
    rw [Tree.lookup_filter_fst, if_pos (List.contains_iff_mem.mpr hkey)]
  · exact absurd h fail_ne_some

end Fields

end SuiteBench.Yaml
