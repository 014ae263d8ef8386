import SuiteBench.Json.Decoder
import SuiteBench.Proofs.Json.RoundTrip

/-!
# Proofs.Json.FieldOrder — the order of fields

Bringing the fields of a document into the order of their names keeps the fields, and no decoder sees the
order: a structure takes each field by its name, and a field that it knows comes at most once.
-/

namespace SuiteBench.Json

variable {α : Type} {decode : Json → Option α} {fs gs : List (String × Json)}

/-! ### Fields in order -/

theorem insertField_perm (f : String × Json) : ∀ gs, (insertField f gs).Perm (f :: gs)
  | [] => .refl _
  | g :: gs => by
    rw [insertField]
    split
    · rfl
    · exact ((insertField_perm f gs).cons g).trans (List.Perm.swap f g gs)

/-- Sorting keeps the fields, with their documents sorted in turn. -/
theorem sortedFields_perm : ∀ fs, (sortedFields fs).Perm (fs.map fun f => (f.1, f.2.sorted))
  | [] => .refl _
  | (k, v) :: fs => by
    rw [sortedFields]
    exact (insertField_perm _ _).trans ((sortedFields_perm fs).cons _)

theorem sortedItems_eq_map : ∀ xs, sortedItems xs = xs.map sorted
  | [] => rfl
  | x :: xs => by rw [sortedItems, sortedItems_eq_map xs, List.map_cons]

theorem plainItems_iff : ∀ {xs}, PlainItems xs ↔ ∀ x ∈ xs, Plain x
  | [] => by simp [PlainItems]
  | x :: xs => by rw [PlainItems, plainItems_iff, List.forall_mem_cons]

theorem plainFields_iff : ∀ {fs}, PlainFields fs ↔ ∀ f ∈ fs, Plain f.2
  | [] => by simp [PlainFields]
  | (k, v) :: fs => by rw [PlainFields, plainFields_iff, List.forall_mem_cons]

mutual

/-- Sorting keeps a document plain. -/
theorem plain_sorted : ∀ {j : Json}, Plain j → Plain j.sorted
  | .null, h => h
  | .bool _, h => h
  | .number _, h => h
  | .string _, h => h
  | .array xs, h => by
    rw [sorted]
    exact plainItems_sorted h
  | .object fs, h => by
    rw [sorted]
    refine plainFields_iff.mpr fun f hf => ?_
    obtain ⟨g, hg, rfl⟩ := List.mem_map.mp ((sortedFields_perm fs).mem_iff.mp hf)
    exact plainFields_sorted h g hg

theorem plainItems_sorted : ∀ {xs : List Json}, PlainItems xs → PlainItems (sortedItems xs)
  | [], h => h
  | x :: xs, h => by
    rw [sortedItems]
    exact ⟨plain_sorted h.1, plainItems_sorted h.2⟩

theorem plainFields_sorted : ∀ {fs : List (String × Json)}, PlainFields fs → ∀ f ∈ fs, Plain f.2.sorted
  | [], _, f, hf => absurd hf List.not_mem_nil
  | (k, v) :: fs, h, f, hf => by
    rcases List.mem_cons.mp hf with rfl | hf
    · exact plain_sorted h.1
    · exact plainFields_sorted h.2 f hf

end

/-! ### Decoders -/

/-- Whether a decoder does not see the order of fields. -/
def Blind (decode : Json → Option α) : Prop := ∀ j, decode j.sorted = decode j

theorem blind_nat? (bound : Nat) : Blind (nat? bound) := fun j => by cases j <;> rfl

theorem blind_int? (bound : Nat) : Blind (int? bound) := fun j => by cases j <;> rfl

theorem blind_float? : Blind float? := fun j => by cases j <;> rfl

theorem blind_bool? : Blind bool? := fun j => by cases j <;> rfl

theorem blind_text? : Blind text? := fun j => by cases j <;> rfl

theorem named?_eq_none {ofName : String → Option α} (h : fs.length ≠ 1) :
    named? ofName (.object fs) = none := by
  rcases fs with _ | ⟨f, _ | ⟨g, fs⟩⟩
  · rfl
  · exact absurd rfl h
  · simp [named?]

theorem blind_named? (ofName : String → Option α) : Blind (named? ofName) := by
  intro j
  cases j with
  | object fs =>
    rw [sorted]
    by_cases hone : fs.length = 1
    · obtain ⟨⟨k, v⟩, rfl⟩ := List.length_eq_one_iff.mp hone
      cases v <;> rfl
    · have hlength : (sortedFields fs).length = fs.length := by
        rw [(sortedFields_perm fs).length_eq, List.length_map]
      rw [named?_eq_none hone, named?_eq_none (hlength ▸ hone)]
  | _ => rfl

theorem lookup_map_snd (g : Json → Json) (fs : List (String × Json)) (n : String) :
    (fs.map fun f => (f.1, g f.2)).lookup n = (fs.lookup n).map g := by
  induction fs with
  | nil => rfl
  | cons f fs ih =>
    rw [List.map_cons, List.lookup_cons, List.lookup_cons, ih]
    split <;> rfl

theorem lookup_eq_filter (fs : List (String × Json)) (n : String) :
    fs.lookup n = (fs.filter fun f => f.1 == n).head?.map (·.2) := by
  induction fs with
  | nil => rfl
  | cons f fs ih =>
    obtain ⟨k, v⟩ := f
    rw [List.lookup_cons, List.filter_cons, ih, BEq.comm (a := n)]
    cases k == n <;> rfl

/-- A field that comes at most once is found wherever it stands. -/
theorem lookup_perm (h : fs.Perm gs) {n : String} (hone : (fs.filter fun f => f.1 == n).length ≤ 1) :
    fs.lookup n = gs.lookup n := by
  have hperm := h.filter fun f => f.1 == n
  rw [lookup_eq_filter, lookup_eq_filter]
  congr 2
  rcases Nat.le_one_iff_eq_zero_or_eq_one.mp hone with hnone | hsome
  · rw [List.length_eq_zero_iff.mp hnone] at hperm ⊢
    exact (List.nil_perm.mp hperm).symm
  · obtain ⟨f, hf⟩ := List.length_eq_one_iff.mp hsome
    rw [hf] at hperm ⊢
    exact List.singleton_perm.mp hperm

/-- A structure takes the same fields from a sorted document. -/
theorem structure?_sorted (names : List String) (j : Json) :
    (structure? names j = none ∧ structure? names j.sorted = none) ∨
      ∃ fs gs, structure? names j = some fs ∧ structure? names j.sorted = some gs ∧
        ∀ n, gs.lookup n = (fs.lookup n).map sorted := by
  cases j with
  | array xs =>
    rw [sorted, sortedItems_eq_map, structure?, structure?, List.length_map]
    split
    · refine .inr ⟨_, _, rfl, rfl, fun n => ?_⟩
      rw [← lookup_map_snd, List.zip_map_right]
      rfl
    · exact .inl ⟨rfl, rfl⟩
  | object fs =>
    have hperm : ((sortedFields fs).filter fun f => names.contains f.1).Perm
        ((fs.filter fun f => names.contains f.1).map fun f => (f.1, f.2.sorted)) := by
      have hfilter := (sortedFields_perm fs).filter fun f => names.contains f.1
      rwa [List.filter_map] at hfilter
    have hnamed : ∀ f ∈ fs.filter fun f => names.contains f.1, f.1 ∈ names := fun f hf => by
      simpa using List.of_mem_filter hf
    rw [sorted, structure?, structure?]
    generalize (fs.filter fun f => names.contains f.1) = known at hperm hnamed ⊢
    generalize ((sortedFields fs).filter fun f => names.contains f.1) = known' at hperm ⊢
    have hcount (n : String) : (known'.filter fun f => f.1 == n).length =
        (known.filter fun f => f.1 == n).length := by
      rw [(hperm.filter fun f => f.1 == n).length_eq, List.filter_map, List.length_map]
      rfl
    simp only [hcount]
    split
    · next hone =>
      refine .inr ⟨known, known', rfl, rfl, fun n => ?_⟩
      rw [← lookup_map_snd]
      refine lookup_perm hperm ?_
      rw [hcount]
      by_cases hn : n ∈ names
      · exact of_decide_eq_true (List.all_eq_true.mp hone n hn)
      · have hnone : (known.filter fun f => f.1 == n) = [] := List.filter_eq_nil_iff.mpr fun f hf heq =>
          hn (beq_iff_eq.mp heq ▸ hnamed f hf)
        rw [hnone]
        exact Nat.zero_le 1
    · exact .inl ⟨rfl, rfl⟩
  | _ => exact .inl ⟨rfl, rfl⟩

theorem Blind.required (hd : Blind decode) {n : String} (h : gs.lookup n = (fs.lookup n).map sorted) :
    Fields.required gs n decode = Fields.required fs n decode := by
  rw [Fields.required, Fields.required, h]
  cases fs.lookup n with
  | none => rfl
  | some j => exact hd j

theorem Blind.optional (hd : Blind decode) {n : String} {a : α} (h : gs.lookup n = (fs.lookup n).map sorted) :
    Fields.optional gs n a decode = Fields.optional fs n a decode := by
  rw [Fields.optional, Fields.optional, h]
  cases fs.lookup n with
  | none => rfl
  | some j => exact hd j

end SuiteBench.Json
