import Mathlib.Data.List.Infix
import SuiteBench.Execution.Invocation
import SuiteBench.Proofs.Settings.Check
import SuiteBench.Proofs.Store.Tree

/-!
# Proofs.Execution.Templates — what filling in makes of a template

A template is cut into its parts, letters that stand for themselves and fields.  Filling in goes
through the known fields one after another; as long as no value that is put in could be read on as a
field that is still to come, the outcome is the template with every field replaced in its place.
-/

namespace SuiteBench

namespace Template

/-! ### Parts -/

/-- A part of a template. -/
inductive Part where
  | letter (c : Char)
  | field (name : String)
  deriving DecidableEq, Repr

namespace Part

/-- A part as it stands in the template. -/
def written : Part → List Char
  | letter c => [c]
  | field name => mark name

/-- A part with the value of its field in place, where the field has one. -/
def filled (value? : String → Option String) : Part → List Char
  | letter c => [c]
  | field name => ((value? name).map String.toList).getD (mark name)

/-- The name of the field that a part is. -/
def name? : Part → Option String
  | letter _ => none
  | field name => some name

end Part

/-- The parts of a text; inside a field the name read so far is given, last character first.  A field
that is never closed is text. -/
def partsFrom : Option (List Char) → List Char → List Part
  | none, [] => []
  | some name, [] => ('{' :: name.reverse).map .letter
  | none, c :: cs =>
    if c == '{' then partsFrom (some []) cs else .letter c :: partsFrom none cs
  | some name, c :: cs =>
    if c == '}' then .field (String.ofList name.reverse) :: partsFrom none cs
    else partsFrom (some (c :: name)) cs

/-- The parts of a template. -/
def parts (template : String) : List Part := partsFrom none template.toList

/-- A template with the values of its fields in their places and all other text unchanged. -/
def substituted (value? : String → Option String) (template : String) : List Char :=
  (parts template).flatMap (Part.filled value?)

/-- The text of a field that is open. -/
def opened : Option (List Char) → List Char
  | none => []
  | some name => '{' :: name.reverse

theorem flatMap_letters (f : Part → List Char) (hf : ∀ c, f (.letter c) = [c]) (cs : List Char) :
    (cs.map Part.letter).flatMap f = cs := by
  induction cs with
  | nil => rfl
  | cons c cs ih => rw [List.map_cons, List.flatMap_cons, hf, ih, List.singleton_append]

theorem written_partsFrom (st : Option (List Char)) (cs : List Char) :
    (partsFrom st cs).flatMap Part.written = opened st ++ cs := by
  induction cs generalizing st with
  | nil =>
    cases st with
    | none => rfl
    | some name => rw [partsFrom, flatMap_letters _ fun _ => rfl, opened, List.append_nil]
  | cons c cs ih =>
    cases st with
    | none =>
      rw [partsFrom]
      split
      · next hc => rw [ih, beq_iff_eq.mp hc]; rfl
      · rw [List.flatMap_cons, ih]; rfl
    | some name =>
      rw [partsFrom]
      split
      · next hc =>
        rw [List.flatMap_cons, ih, Part.written, mark, String.toList_ofList, beq_iff_eq.mp hc]
        simp [opened]
      · rw [ih]; simp [opened]

/-- The parts of a template are all of it. -/
theorem written_parts (template : String) :
    (parts template).flatMap Part.written = template.toList := by
  rw [parts, written_partsFrom, opened, List.nil_append]

theorem filterMap_letters (cs : List Char) : (cs.map Part.letter).filterMap Part.name? = [] := by
  rw [List.filterMap_map, List.filterMap_eq_nil_iff]
  intro c _
  rfl

theorem names_partsFrom (st : Option (List Char)) (cs : List Char) :
    (partsFrom st cs).filterMap Part.name? = (fieldsFrom st cs).map String.ofList := by
  induction cs generalizing st with
  | nil =>
    cases st with
    | none => rfl
    | some name => rw [partsFrom, filterMap_letters, fieldsFrom, List.map_nil]
  | cons c cs ih =>
    cases st with
    | none =>
      rw [partsFrom, fieldsFrom]
      split
      · exact ih _
      · exact ih _
    | some name =>
      rw [partsFrom, fieldsFrom]
      split
      · exact congrArg _ (ih _)
      · exact ih _

/-- The fields among the parts of a template are those that it reports, in their order. -/
theorem names_parts (template : String) :
    (parts template).filterMap Part.name? = placeholders template := names_partsFrom none _

/-! ### Replacing -/

section Replacing

variable {p v a b : List Char}

theorem replaceFrom_drop (p v : List Char) (n : Nat) (cs : List Char) :
    replaceFrom p v n cs = replaceFrom p v 0 (cs.drop n) := by
  induction n generalizing cs with
  | zero => rfl
  | succ n ih =>
    cases cs with
    | nil => rfl
    | cons c cs => rw [replaceFrom, ih, List.drop_succ_cons]

/-- What stands in front is replaced. -/
theorem replaceFrom_self (hp : p ≠ []) (v b : List Char) :
    replaceFrom p v 0 (p ++ b) = v ++ replaceFrom p v 0 b := by
  obtain ⟨c, p', rfl⟩ := List.exists_cons_of_ne_nil hp
  have hstart : Text.startsWith (c :: p') (c :: (p' ++ b)) = true := Text.startsWith_iff.mpr ⟨b, rfl⟩
  rw [List.cons_append, replaceFrom, if_pos hstart, replaceFrom_drop, List.length_cons,
    Nat.add_sub_cancel, List.drop_left]

/-- A text in which no occurrence starts stays. -/
theorem replaceFrom_append (h : ∀ s, s ≠ [] → s <:+ a → ¬ p <+: s ++ b) :
    replaceFrom p v 0 (a ++ b) = a ++ replaceFrom p v 0 b := by
  induction a with
  | nil => rfl
  | cons c a ih =>
    have hstart : ¬ Text.startsWith p (c :: (a ++ b)) = true := by
      intro hs
      obtain ⟨r, hr⟩ := Text.startsWith_iff.mp hs
      exact h (c :: a) (List.cons_ne_nil c a) (List.suffix_refl _) ⟨r, hr.symm⟩
    rw [List.cons_append, replaceFrom, if_neg hstart,
      ih fun s hs hsa => h s hs (hsa.trans (List.suffix_cons c a)), List.cons_append]

end Replacing

/-! ### Fields -/

/-- Whether a text holds no brace. -/
def Braceless (cs : List Char) : Prop := '{' ∉ cs ∧ '}' ∉ cs

instance (cs : List Char) : Decidable (Braceless cs) :=
  inferInstanceAs (Decidable ('{' ∉ cs ∧ '}' ∉ cs))

/-- Whether what stands behind a text could make a field of its end, or a field stands in it: from some
place on it spells the field as far as it goes. -/
def ReadsOnAs (cs : List Char) (name : String) : Prop :=
  ∃ s ∈ cs.tails, s ≠ [] ∧ (s <+: mark name ∨ mark name <+: s)

instance (cs : List Char) (name : String) : Decidable (ReadsOnAs cs name) :=
  inferInstanceAs (Decidable (∃ s ∈ cs.tails, s ≠ [] ∧ (s <+: mark name ∨ mark name <+: s)))

variable {name : String} {cs a b v : List Char}

theorem mark_ne_nil (name : String) : mark name ≠ [] := by simp [mark]

/-- Only a text with an opening brace is read on as a field. -/
theorem not_readsOnAs (h : '{' ∉ cs) (name : String) : ¬ ReadsOnAs cs name := by
  rintro ⟨s, hs, hne, hmark⟩
  refine h (((List.mem_tails _ _).mp hs).subset ?_)
  rcases hmark with hpre | hpre
  · obtain ⟨c, s, rfl⟩ := List.exists_cons_of_ne_nil hne
    rw [mark, List.cons_append, List.cons_prefix_cons] at hpre
    exact hpre.1 ▸ List.mem_cons_self
  · exact hpre.subset (by simp [mark])

theorem fill_append (h : ¬ ReadsOnAs a name) (value : String) (b : List Char) :
    fill name value (a ++ b) = a ++ fill name value b := by
  refine replaceFrom_append fun s hs hsa hpre => h ⟨s, (List.mem_tails _ _).mpr hsa, hs, ?_⟩
  exact List.prefix_or_prefix_of_prefix (List.prefix_append s b) hpre

theorem fill_mark (name value : String) (b : List Char) :
    fill name value (mark name ++ b) = value.toList ++ fill name value b :=
  replaceFrom_self (mark_ne_nil name) _ _

/-- Where no brace is closed, no field stands. -/
theorem fill_of_open (h : '}' ∉ cs) (name value : String) : fill name value cs = cs := by
  have hkeep := replaceFrom_append (p := mark name) (v := value.toList) (a := cs) (b := []) ?_
  · simpa [fill, replaceFrom] using hkeep
  · intro s hs hsa hpre
    refine h (hsa.subset ?_)
    rw [List.append_nil] at hpre
    exact hpre.subset (by simp [mark])

/-- A closing brace ends a field only where its name ends. -/
theorem eq_of_closed {f g r : List Char} (hf : '}' ∉ f) (hg : '}' ∉ g)
    (h : f ++ '}' :: r <+: g ++ ['}']) : f = g := by
  induction f generalizing g with
  | nil =>
    cases g with
    | nil => rfl
    | cons d g => exact absurd (List.cons_prefix_cons.mp h).1 fun hd => hg (hd ▸ List.mem_cons_self)
  | cons c f ih =>
    cases g with
    | nil =>
      exact absurd (List.cons_prefix_cons.mp h).1 fun hc => hf (hc ▸ List.mem_cons_self)
    | cons d g =>
      obtain ⟨rfl, hrest⟩ := List.cons_prefix_cons.mp h
      rw [ih (fun hm => hf (List.mem_cons_of_mem _ hm)) (fun hm => hg (List.mem_cons_of_mem _ hm)) hrest]

/-- A field is not read on as another. -/
theorem not_readsOnAs_mark {f g : String} (hf : Braceless f.toList) (hg : '}' ∉ g.toList)
    (hne : f ≠ g) : ¬ ReadsOnAs (mark f) g := by
  rintro ⟨s, hs, hsne, hpre⟩
  -- the only opening brace of a field is its first character
  have hwhole : s = mark f := by
    rcases List.suffix_cons_iff.mp ((List.mem_tails _ _).mp hs) with h | h
    · exact h
    · refine absurd ⟨s, (List.mem_tails _ _).mpr (List.suffix_refl s), hsne, hpre⟩
        (not_readsOnAs (fun hm => ?_) g)
      have := h.subset hm
      simp [hf.1] at this
  rw [hwhole] at hpre
  have heq : f.toList = g.toList := by
    rcases hpre with hpre | hpre
    · exact eq_of_closed hf.2 hg (List.cons_prefix_cons.mp hpre).2
    · exact (eq_of_closed hg hf.2 (List.cons_prefix_cons.mp hpre).2).symm
  exact hne (String.toList_inj.mp heq)

/-! ### Filling in one field after another -/

variable {done values : List (String × String)} {template : String}

/-- Whether the fields of a text are names that may stand between braces, and none of their values in
`done` could be read on as the field `name`. -/
structure Clear (done : List (String × String)) (name : String) (fields : List (List Char)) :
    Prop where
  names : ∀ f ∈ fields, Braceless f
  values : ∀ f ∈ fields, ∀ v, done.lookup (String.ofList f) = some v → ¬ ReadsOnAs v.toList name

/-- Filling in a field replaces a part that is this field and keeps any other. -/
theorem fill_field {name value f : String} (hname : '}' ∉ name.toList) (hf : Braceless f.toList)
    (hvalue : ∀ v, done.lookup f = some v → ¬ ReadsOnAs v.toList name) (b : List Char) :
    fill name value ((Part.field f).filled (done.lookup ·) ++ b) =
      (Part.field f).filled ((done ++ [(name, value)]).lookup ·) ++ fill name value b := by
  rw [Part.filled, Part.filled, List.lookup_append]
  cases hdone : done.lookup f with
  | some v =>
    simp only [Option.map_some, Option.getD_some, Option.some_or]
    exact fill_append (hvalue v hdone) value b
  | none =>
    by_cases heq : f = name
    · subst heq
      simp only [Option.map_none, Option.getD_none, Option.none_or, List.lookup_cons_self,
        Option.map_some, Option.getD_some]
      exact fill_mark f value b
    · have hother : List.lookup f [(name, value)] = none := by simp [heq]
      rw [hother]
      simp only [Option.map_none, Option.getD_none, Option.or_self]
      exact fill_append (not_readsOnAs_mark hf hname heq) value b

/-- Filling in one field puts its value in the place of each field of that name. -/
theorem fill_partsFrom {name : String} (value : String) (hname : Braceless name.toList)
    (st : Option (List Char)) (cs : List Char) (hst : ∀ n, st = some n → '}' ∉ n)
    (hclear : Clear done name (fieldsFrom st cs)) :
    fill name value ((partsFrom st cs).flatMap (Part.filled (done.lookup ·))) =
      (partsFrom st cs).flatMap (Part.filled ((done ++ [(name, value)]).lookup ·)) := by
  induction cs generalizing st with
  | nil =>
    cases st with
    | none => rfl
    | some n =>
      have hopen : '}' ∉ '{' :: n.reverse := by simp [hst n rfl]
      rw [partsFrom, flatMap_letters _ fun _ => rfl, flatMap_letters _ fun _ => rfl,
        fill_of_open hopen]
  | cons c cs ih =>
    cases st with
    | none =>
      rw [partsFrom]
      rw [fieldsFrom] at hclear
      split
      · next hc => exact ih (some []) (by simp) (by rwa [if_pos hc] at hclear)
      · next hc =>
        rw [if_neg hc] at hclear
        have hletter : '{' ∉ [c] := fun hm => hc (beq_iff_eq.mpr (List.mem_singleton.mp hm).symm)
        rw [List.flatMap_cons, List.flatMap_cons, Part.filled, Part.filled,
          fill_append (not_readsOnAs hletter name), ih none nofun hclear]
    | some n =>
      rw [partsFrom]
      rw [fieldsFrom] at hclear
      split
      · next hc =>
        rw [if_pos hc] at hclear
        have hrest := ih none nofun ⟨fun f hf => hclear.names f (List.mem_cons_of_mem _ hf),
          fun f hf => hclear.values f (List.mem_cons_of_mem _ hf)⟩
        have hn : Braceless n.reverse := hclear.names _ List.mem_cons_self
        rw [List.flatMap_cons, List.flatMap_cons,
          fill_field hname.2 (by rwa [String.toList_ofList])
            (hclear.values _ List.mem_cons_self), hrest]
      · next hc =>
        rw [if_neg hc] at hclear
        refine ih (some (c :: n)) (fun m hm => ?_) hclear
        cases hm
        rw [List.mem_cons]
        rintro (h | h)
        · exact hc (beq_iff_eq.mpr h.symm)
        · exact hst n rfl h

/-- Filling in one field after another puts every value in its place, as long as no value that is asked
for could be read on as a later field. -/
theorem foldl_fill {fields : List String} (hfields : placeholders template = fields)
    (hnames : ∀ f ∈ fieldsFrom none template.toList, Braceless f)
    (hvalues : ∀ p ∈ values, Braceless p.1.toList)
    (hpair : (done ++ values).Pairwise fun a b => a.1 ∈ fields → ¬ ReadsOnAs a.2.toList b.1) :
    values.foldl (fun cs (name, value) => fill name value cs)
        (substituted (done.lookup ·) template) =
      substituted ((done ++ values).lookup ·) template := by
  induction values generalizing done with
  | nil => rw [List.foldl_nil, List.append_nil]
  | cons p values ih =>
    obtain ⟨name, value⟩ := p
    have hclear : Clear done name (fieldsFrom none template.toList) := by
      refine ⟨hnames, fun f hf v hv => ?_⟩
      obtain ⟨l₁, l₂, rfl, -⟩ := List.lookup_eq_some_iff.mp hv
      have hasked : String.ofList f ∈ fields := hfields ▸ List.mem_map_of_mem hf
      exact (List.pairwise_append.mp hpair).2.2 (String.ofList f, v) (by simp) (name, value)
        List.mem_cons_self hasked
    have hfill := fill_partsFrom value (hvalues _ List.mem_cons_self) none template.toList nofun hclear
    have happend : done ++ (name, value) :: values = done ++ [(name, value)] ++ values := by simp
    rw [happend] at hpair ⊢
    rw [List.foldl_cons, ← ih (fun q hq => hvalues q (List.mem_cons_of_mem _ hq)) hpair]
    exact congrArg (values.foldl fun cs (name, value) => fill name value cs) hfill

theorem Part.filled_none : Part.filled (fun _ => none) = Part.written := by
  funext x
  cases x <;> rfl

/-- Filling in nothing leaves a template as it is. -/
theorem substituted_none (template : String) :
    substituted (fun _ => none) template = template.toList := by
  rw [substituted, Part.filled_none, written_parts]

/-- A template with all its values filled in one after another has each in its place. -/
theorem toList_render (hnames : ∀ f ∈ fieldsFrom none template.toList, Braceless f)
    (hvalues : ∀ p ∈ values, Braceless p.1.toList)
    (hpair : values.Pairwise fun a b => a.1 ∈ placeholders template → ¬ ReadsOnAs a.2.toList b.1) :
    (render values template).toList = substituted (values.lookup ·) template := by
  have h := foldl_fill rfl hnames hvalues ((List.nil_append values).symm ▸ hpair)
  have hnone : (fun name => List.lookup name ([] : List (String × String))) = fun _ => none := rfl
  rw [hnone, substituted_none] at h
  rw [render, String.toList_ofList, h, List.nil_append]

/-! ### What is left of fields -/

/-- Whether a text holds an opening brace with a closing one behind it. -/
def HoldsField (cs : List Char) : Prop := ∃ s ∈ cs.tails, s.head? = some '{' ∧ '}' ∈ s

instance (cs : List Char) : Decidable (HoldsField cs) :=
  inferInstanceAs (Decidable (∃ s ∈ cs.tails, s.head? = some '{' ∧ '}' ∈ s))

theorem holdsField_cons {c : Char} :
    HoldsField (c :: cs) ↔ (c = '{' ∧ '}' ∈ cs) ∨ HoldsField cs := by
  unfold HoldsField
  rw [List.tails_cons]
  constructor
  · rintro ⟨s, hs, hhead, hclose⟩
    rcases List.mem_cons.mp hs with rfl | hs
    · refine .inl ⟨Option.some.inj hhead, (List.mem_cons.mp hclose).resolve_left ?_⟩
      rw [Option.some.inj hhead]
      decide
    · exact .inr ⟨s, hs, hhead, hclose⟩
  · rintro (⟨rfl, hclose⟩ | ⟨s, hs, h⟩)
    · exact ⟨'{' :: cs, List.mem_cons_self, rfl, List.mem_cons_of_mem _ hclose⟩
    · exact ⟨s, List.mem_cons_of_mem _ hs, h⟩

theorem holdsField_append (h : '{' ∉ a) (b : List Char) : HoldsField (a ++ b) ↔ HoldsField b := by
  induction a with
  | nil => rfl
  | cons c a ih =>
    rw [List.mem_cons, not_or] at h
    rw [List.cons_append, holdsField_cons, ih h.2]
    simp [Ne.symm h.1]

theorem not_holdsField (h : '}' ∉ cs) : ¬ HoldsField cs := fun ⟨_, hs, _, hclose⟩ =>
  h (((List.mem_tails _ _).mp hs).subset hclose)

/-- With a value for each of its fields, none of which holds an opening brace, a template leaves no
field. -/
theorem not_holdsField_partsFrom {value? : String → Option String} (st : Option (List Char))
    (cs : List Char) (hst : ∀ n, st = some n → '}' ∉ n)
    (h : ∀ f ∈ fieldsFrom st cs, ∃ v, value? (String.ofList f) = some v ∧ '{' ∉ v.toList) :
    ¬ HoldsField ((partsFrom st cs).flatMap (Part.filled value?)) := by
  induction cs generalizing st with
  | nil =>
    cases st with
    | none => exact not_holdsField (by simp [partsFrom])
    | some n =>
      rw [partsFrom, flatMap_letters _ fun _ => rfl]
      exact not_holdsField (by simp [hst n rfl])
  | cons c cs ih =>
    cases st with
    | none =>
      rw [partsFrom]
      rw [fieldsFrom] at h
      split
      · next hc => exact ih (some []) (by simp) (by rwa [if_pos hc] at h)
      · next hc =>
        rw [if_neg hc] at h
        have hletter : '{' ∉ [c] := fun hm => hc (beq_iff_eq.mpr (List.mem_singleton.mp hm).symm)
        rw [List.flatMap_cons, Part.filled, holdsField_append hletter]
        exact ih none nofun h
    | some n =>
      rw [partsFrom]
      rw [fieldsFrom] at h
      split
      · next hc =>
        rw [if_pos hc] at h
        obtain ⟨v, hv, hopen⟩ := h _ List.mem_cons_self
        rw [List.flatMap_cons, Part.filled, hv, Option.map_some, Option.getD_some,
          holdsField_append hopen]
        exact ih none nofun fun f hf => h f (List.mem_cons_of_mem _ hf)
      · next hc =>
        rw [if_neg hc] at h
        refine ih (some (c :: n)) (fun m hm => ?_) h
        cases hm
        rw [List.mem_cons]
        rintro (h | h)
        · exact hc (beq_iff_eq.mpr h.symm)
        · exact hst n rfl h

/-- Replacing a field goes on at any opening brace: no field reaches over one. -/
theorem replaceFrom_brace {g : String} (hg : '{' ∉ g.toList) (v z : List Char) (x : List Char) :
    ∃ x', replaceFrom (mark g) v 0 (x ++ '{' :: z) = x' ++ replaceFrom (mark g) v 0 ('{' :: z) := by
  induction hn : x.length using Nat.strong_induction_on generalizing x with
  | _ n ih =>
    subst hn
    cases x with
    | nil => exact ⟨[], rfl⟩
    | cons c x =>
      by_cases hstart : mark g <+: c :: x ++ '{' :: z
      · -- the field ends in front of the brace
        have hfits : mark g <+: c :: x := by
          rcases List.prefix_or_prefix_of_prefix hstart (List.prefix_append _ _) with h | ⟨r, hr⟩
          · exact h
          · cases r with
            | nil => exact ⟨[], by rw [List.append_nil] at hr ⊢; exact hr.symm⟩
            | cons d r =>
              rw [← hr, List.prefix_append_right_inj, List.cons_prefix_cons] at hstart
              rw [hstart.1, mark, List.cons_append, List.cons_append, List.cons.injEq] at hr
              have hmem : '{' ∈ g.toList ++ ['}'] := hr.2 ▸ by simp
              simp [hg] at hmem
        obtain ⟨y, hy⟩ := hfits
        have hlt : y.length < (c :: x).length := by
          rw [← hy, mark]
          simp
          omega
        obtain ⟨x', hx'⟩ := ih _ hlt y rfl
        refine ⟨v ++ x', ?_⟩
        rw [← hy, List.append_assoc, replaceFrom_self (mark_ne_nil g), hx', List.append_assoc]
      · have hno : ¬ Text.startsWith (mark g) (c :: (x ++ '{' :: z)) = true := fun hs =>
          have ⟨r, hr⟩ := Text.startsWith_iff.mp hs
          hstart ⟨r, hr.symm⟩
        obtain ⟨x', hx'⟩ := ih _ (Nat.lt_succ_self _) x rfl
        exact ⟨c :: x', by rw [List.cons_append, replaceFrom, if_neg hno, hx', List.cons_append]⟩

/-- A field that is not filled in stays. -/
theorem mark_infix_foldl {f : String} (hf : Braceless f.toList)
    (hvalues : ∀ p ∈ values, Braceless p.1.toList ∧ p.1 ≠ f) (h : mark f <:+: cs) :
    mark f <:+: values.foldl (fun cs (name, value) => fill name value cs) cs := by
  induction values generalizing cs with
  | nil => exact h
  | cons p values ih =>
    obtain ⟨hp, hvalues⟩ := List.forall_mem_cons.mp hvalues
    rw [List.foldl_cons]
    refine ih hvalues ?_
    obtain ⟨x, y, rfl⟩ := h
    obtain ⟨x', hx'⟩ := replaceFrom_brace hp.1.1 p.2.toList (f.toList ++ ['}'] ++ y) x
    have hkeep := fill_append (not_readsOnAs_mark hf hp.1.2 hp.2.symm) p.2 y
    refine ⟨x', fill p.1 p.2 y, ?_⟩
    calc x' ++ mark f ++ fill p.1 p.2 y
        = x' ++ fill p.1 p.2 (mark f ++ y) := by rw [hkeep, List.append_assoc]
      _ = fill p.1 p.2 (x ++ mark f ++ y) := by rw [List.append_assoc x]; exact hx'.symm

/-- The name of a field holds no closing brace. -/
theorem notMem_fieldsFrom (st : Option (List Char)) (cs : List Char)
    (hst : ∀ n, st = some n → '}' ∉ n) : ∀ f ∈ fieldsFrom st cs, '}' ∉ f := by
  induction cs generalizing st with
  | nil => cases st <;> simp [fieldsFrom]
  | cons c cs ih =>
    cases st with
    | none =>
      rw [fieldsFrom]
      refine ih _ fun n hn => ?_
      split at hn
      · cases hn
        simp
      · cases hn
    | some n =>
      rw [fieldsFrom]
      split
      · refine List.forall_mem_cons.mpr ⟨?_, ih none nofun⟩
        simpa using hst n rfl
      · next hc =>
        refine ih (some (c :: n)) fun m hm => ?_
        cases hm
        rw [List.mem_cons]
        rintro (h | h)
        · exact hc (beq_iff_eq.mpr h.symm)
        · exact hst n rfl h

/-- A field that a template reports stands in it. -/
theorem mark_infix_of_mem {name : String} (h : name ∈ placeholders template) :
    mark name <:+: template.toList := by
  rw [← names_parts] at h
  obtain ⟨p, hp, hname⟩ := List.mem_filterMap.mp h
  obtain ⟨l, r, hlr⟩ := List.append_of_mem hp
  rw [← written_parts, hlr, List.flatMap_append, List.flatMap_cons]
  cases p with
  | letter c => cases hname
  | field f =>
    cases hname
    exact ⟨_, _, List.append_assoc _ _ _⟩

theorem holdsField_of_mark_infix {name : String} (h : mark name <:+: cs) : HoldsField cs := by
  obtain ⟨x, y, rfl⟩ := h
  refine ⟨mark name ++ y, (List.mem_tails _ _).mpr ⟨x, (List.append_assoc _ _ _).symm⟩, rfl, ?_⟩
  simp [mark]

/-! ### Known fields -/

theorem braceless_knownFields : ∀ name ∈ knownFields, Braceless name.toList := by
  decide

theorem nodup_knownFields : knownFields.Nodup := by decide

/-- Where all fields are known, all are names that may stand between braces. -/
theorem braceless_of_known (h : ∀ name ∈ placeholders template, name ∈ knownFields) :
    ∀ f ∈ fieldsFrom none template.toList, Braceless f := by
  intro f hf
  have := braceless_knownFields _ (h _ (List.mem_map_of_mem hf))
  rwa [String.toList_ofList] at this

end Template

namespace RunContext

open Template

variable (c : RunContext)

/-- A known field has a value in every run. -/
theorem value?_isSome {name : String} (h : name ∈ knownFields) : (c.value? name).isSome := by
  simp only [knownFields, List.mem_cons, List.not_mem_nil, or_false] at h
  rcases h with rfl | rfl | rfl | rfl | rfl | rfl | rfl | rfl | rfl <;> rfl

/-- Only a known field has a value. -/
theorem mem_knownFields_of_value? {name v : String} (h : c.value? name = some v) :
    name ∈ knownFields := by
  unfold value? at h
  split at h
  case h_10 => cases h
  all_goals simp [knownFields]

/-- The fields that are filled in are the known ones in their order. -/
theorem names_values : c.values.map Prod.fst = knownFields := rfl

theorem lookup_values (name : String) : c.values.lookup name = c.value? name := by
  cases h : c.value? name with
  | none =>
    rw [List.lookup_eq_none_iff]
    intro p hp
    rw [bne_iff_ne]
    rintro rfl
    have hknown : p.1 ∈ knownFields := c.names_values ▸ List.mem_map_of_mem hp
    have := c.value?_isSome hknown
    rw [h] at this
    cases this
  | some v =>
    have hmem : (name, v) ∈ c.values :=
      List.mem_filterMap.mpr ⟨name, c.mem_knownFields_of_value? h, by rw [h]; rfl⟩
    exact (Tree.lookup_eq_some_iff_mem (c.names_values ▸ nodup_knownFields)).mpr hmem

/-- Whether no value that a template asks for could be read on as a field that is filled in later. -/
def Undisturbed (template : String) : Prop :=
  c.values.Pairwise fun a b => a.1 ∈ placeholders template → ¬ ReadsOnAs a.2.toList b.1

instance (template : String) : Decidable (c.Undisturbed template) :=
  inferInstanceAs (Decidable (List.Pairwise _ _))

variable {c} {template : String}

/-- Where all fields are known and no value could be read on as a later field, every value stands in
its place. -/
theorem toList_render (h : ∀ name ∈ placeholders template, name ∈ knownFields)
    (hv : c.Undisturbed template) : (c.render template).toList = substituted c.value? template := by
  have hlookup : (fun name => c.values.lookup name) = c.value? := funext c.lookup_values
  have hvalues : ∀ p ∈ c.values, Braceless p.1.toList := fun p hp =>
    braceless_knownFields _ (c.names_values ▸ List.mem_map_of_mem hp)
  rw [render, Template.toList_render (braceless_of_known h) hvalues hv, hlookup]

end RunContext

end SuiteBench
