import SuiteBench.Proofs.Decimal.Digits
import SuiteBench.Proofs.Json.Text

/-!
# Proofs.Json.Numbers — numerals read back

A numeral ends where no character could go on with it, so that it is read alike whatever breaks it
off.  Whole numbers read back; a double reads back if its own text does.
-/

namespace SuiteBench.Json

open Decimal

/-! ### Where a numeral ends -/

/-- Whether no numeral goes on with `rest`. -/
def Breaks (rest : List Char) : Prop :=
  ∀ c ∈ rest.head?, isDigit c = false ∧ c ≠ '.' ∧ c ≠ 'e' ∧ c ≠ 'E'

theorem breaks_nil : Breaks [] := by simp [Breaks]

theorem breaks_cons {c : Char} {cs : List Char} :
    Breaks (c :: cs) ↔ isDigit c = false ∧ c ≠ '.' ∧ c ≠ 'e' ∧ c ≠ 'E' := by simp [Breaks]

theorem Breaks.notDigit {rest : List Char} (h : Breaks rest) :
    ∀ c ∈ rest.head?, isDigit c = false := fun c hc => (h c hc).1

/-- What stands in front of some text, or the text itself, decides how it starts. -/
theorem head?_append_forall {P : Char → Prop} {front rest : List Char}
    (hf : ∀ c ∈ front.head?, P c) (hr : ∀ c ∈ rest.head?, P c) :
    ∀ c ∈ (front ++ rest).head?, P c := by
  cases front with
  | nil => exact hr
  | cons a front => exact hf

theorem exponentSign_append (cs : List Char) :
    ∃ front, cs = front ++ (exponentSign cs).2 ∧
      (∀ rest, (∀ c ∈ rest.head?, isDigit c = true) →
        exponentSign (front ++ rest) = ((exponentSign cs).1, rest)) := by
  have hplain : ∀ rest : List Char, (∀ c ∈ rest.head?, isDigit c = true) →
      exponentSign rest = (false, rest) := by
    intro rest hr
    unfold exponentSign
    split
    · exact absurd (hr '-' (by simp)) (by decide)
    · exact absurd (hr '+' (by simp)) (by decide)
    · rfl
  unfold exponentSign
  split
  · exact ⟨['-'], rfl, fun rest _ => rfl⟩
  · exact ⟨['+'], rfl, fun rest _ => rfl⟩
  · exact ⟨[], rfl, hplain⟩

theorem head?_forall_of_forall {P : Char → Prop} {ds rest : List Char} (h0 : ds ≠ [])
    (h : ∀ c ∈ ds, P c) : ∀ c ∈ (ds ++ rest).head?, P c := by
  cases ds with
  | nil => exact absurd rfl h0
  | cons a ds => simpa using h a (by simp)

theorem exponent?_append {cs r : List Char} {e : Option Int} (h : exponent? cs = some (e, r)) :
    ∃ front, cs = front ++ r ∧ (∀ c ∈ front.head?, c = 'e' ∨ c = 'E') ∧
      ∀ rest, Breaks rest → exponent? (front ++ rest) = some (e, rest) := by
  have hnone : ∀ rest, Breaks rest → exponent? rest = some (none, rest) := by
    intro rest hb
    cases rest with
    | nil => rfl
    | cons c rest =>
      obtain ⟨-, -, he, hE⟩ := breaks_cons.mp hb
      simp [exponent?, he, hE]
  cases cs with
  | nil => cases h; exact ⟨[], rfl, by simp, hnone⟩
  | cons c cs =>
    by_cases hc : (c == 'e' || c == 'E') = true
    · obtain ⟨sign, hs, hsr⟩ := exponentSign_append cs
      obtain ⟨ds, r', hd, hsp, hds, -⟩ := spanDigits_spec (exponentSign cs).2
      simp only [exponent?, hc, if_true, hsp] at h
      by_cases h0 : ds.isEmpty = true
      · simp [h0] at h
      · rw [if_neg h0] at h
        cases h
        have hne : ds ≠ [] := by simpa using h0
        refine ⟨c :: (sign ++ ds), by rw [hs, hd]; simp, ?_, fun rest hb => ?_⟩
        · simpa using hc
        · simp only [List.cons_append, List.append_assoc, exponent?, hc, if_true,
            hsr _ (head?_forall_of_forall hne hds), spanDigits_append hds hb.notDigit]
          rw [if_neg h0]
    · simp only [exponent?, hc] at h
      cases h
      exact ⟨[], rfl, by simp, hnone⟩

theorem fraction?_append {cs f r : List Char} {point : Bool} (h : fraction? cs = some (f, r, point)) :
    ∃ front, cs = front ++ r ∧ (∀ c ∈ front.head?, c = '.') ∧
      ∀ rest, (∀ c ∈ rest.head?, isDigit c = false ∧ c ≠ '.') →
        fraction? (front ++ rest) = some (f, rest, point) := by
  unfold fraction? at h
  split at h
  · next cs =>
    obtain ⟨ds, r', hd, hsp, hds, -⟩ := spanDigits_spec cs
    simp only [hsp] at h
    by_cases h0 : ds.isEmpty = true
    · simp [h0] at h
    · rw [if_neg h0] at h
      obtain ⟨rfl, rfl, rfl⟩ : ds = f ∧ r' = r ∧ true = point := by simpa using h
      refine ⟨'.' :: ds, by rw [hd]; rfl, by simp, fun rest hr => ?_⟩
      simp only [List.cons_append, fraction?, spanDigits_append hds fun c hc => (hr c hc).1]
      rw [if_neg h0]
  · cases h
    refine ⟨[], rfl, by simp, fun rest hr => ?_⟩
    rw [List.nil_append]
    unfold fraction?
    split
    · exact absurd rfl (hr '.' (by simp)).2
    · rfl

theorem unsigned?_append {negative : Bool} {cs r : List Char} {n : Numeral} {plain : Bool}
    (h : unsigned? negative cs = some (n, plain, r)) :
    ∃ d front, cs = d :: (front ++ r) ∧ isDigit d = true ∧ ∀ rest, Breaks rest →
      unsigned? negative (d :: (front ++ rest)) = some (n, plain, rest) := by
  obtain ⟨ds, r1, hd, hsp, hds, -⟩ := spanDigits_spec cs
  simp only [unsigned?, hsp] at h
  by_cases hw : (ds.isEmpty || (ds.head? == some '0' && ds.length != 1)) = true
  · simp [hw] at h
  · rw [if_neg hw] at h
    obtain ⟨⟨f, r2, point⟩, hf, h⟩ := Option.bind_eq_some_iff.mp h
    obtain ⟨⟨e, r3⟩, he, h⟩ := Option.map_eq_some_iff.mp h
    dsimp only at he h
    cases h
    obtain ⟨fs, hfs, hfh, hfr⟩ := fraction?_append hf
    obtain ⟨es, hes, heh, her⟩ := exponent?_append he
    obtain ⟨d, ds', rfl⟩ : ∃ d ds', ds = d :: ds' := by
      cases ds with
      | nil => simp at hw
      | cons d ds' => exact ⟨d, ds', rfl⟩
    refine ⟨d, ds' ++ fs ++ es, by rw [hd, hfs, hes]; simp, hds d List.mem_cons_self,
      fun rest hb => ?_⟩
    have hafter : ∀ c ∈ (es ++ rest).head?, isDigit c = false ∧ c ≠ '.' :=
      head?_append_forall (fun c hc => by rcases heh c hc with rfl | rfl <;> decide)
        fun c hc => ⟨(hb c hc).1, (hb c hc).2.1⟩
    have hfront : ∀ c ∈ (fs ++ (es ++ rest)).head?, isDigit c = false :=
      head?_append_forall (fun c hc => by rw [hfh c hc]; decide) fun c hc => (hafter c hc).1
    have hspan := spanDigits_append hds hfront
    rw [List.cons_append] at hspan
    simp only [List.append_assoc, unsigned?, hspan]
    rw [if_neg hw, hfr _ hafter, Option.bind_some, her _ hb]
    rfl

theorem numeral?_of_digit {c : Char} (h : isDigit c = true) (cs : List Char) :
    numeral? (c :: cs) = unsigned? false (c :: cs) := by
  unfold numeral?
  split
  · next heq =>
    obtain ⟨rfl, -⟩ := List.cons.inj heq
    exact absurd h (by decide)
  · rfl

/-- A character of a numeral. -/
def numeralChar (c : Char) : Bool := isDigit c || c == '.' || c == 'e' || c == '-' || c == '+'

theorem numeralChar_of_isDigit {c : Char} (h : isDigit c = true) : numeralChar c = true := by
  simp [numeralChar, h]

/-- A numeral is read alike whatever breaks it off. -/
theorem numeral?_append {cs r : List Char} {n : Numeral} {plain : Bool}
    (h : numeral? cs = some (n, plain, r)) :
    ∃ c front, cs = c :: (front ++ r) ∧ numeralChar c = true ∧ ∀ rest, Breaks rest →
      numeral? (c :: (front ++ rest)) = some (n, plain, rest) := by
  unfold numeral? at h
  split at h
  · obtain ⟨d, front, hf, -, hr⟩ := unsigned?_append h
    exact ⟨'-', d :: front, by rw [hf]; rfl, by decide, hr⟩
  · obtain ⟨d, front, hf, hd, hr⟩ := unsigned?_append h
    exact ⟨d, front, hf, numeralChar_of_isDigit hd, fun rest hb => by
      rw [numeral?_of_digit hd, hr rest hb]⟩

/-! ### Characters of numerals -/

theorem numeralChar_ascii {c : Char} (h : numeralChar c = true) : c.toNat < 128 := by
  simp only [numeralChar, Bool.or_eq_true, beq_iff_eq] at h
  rcases h with (((h | rfl) | rfl) | rfl) | rfl
  · have h9 : c.toNat ≤ 57 := (isDigit_iff.mp h).2
    omega
  all_goals decide

/-- Whether a text holds characters of numerals alone. -/
def Numeric (s : String) : Prop := ∀ c ∈ s.toList, numeralChar c = true

instance (s : String) : Decidable (Numeric s) :=
  decidable_of_iff (s.toList.all numeralChar = true) List.all_eq_true

theorem numeric_append {a b : String} : Numeric (a ++ b) ↔ Numeric a ∧ Numeric b := by
  simp [Numeric, or_imp, forall_and]

theorem numeric_digits {ds : List Char} {n : Nat} (h : ∀ c ∈ ds, c ∈ digits n) :
    Numeric (String.ofList ds) := fun c hc =>
  numeralChar_of_isDigit (isDigit_of_mem_digits (h c (by simpa using hc)))

theorem numeric_zeros (n : Nat) : Numeric (String.ofList (List.replicate n '0')) := fun c hc => by
  rw [String.toList_ofList] at hc
  rw [List.eq_of_mem_replicate hc]
  decide

theorem numeric_ofNat (n : Nat) : Numeric (Decimal.ofNat n) := numeric_digits fun _ h => h

/-! ### Numbers that read back -/

/-- Whether the text of a number is a numeral that stands for the number. -/
def NumberReads (n : JsonNumber) : Prop :=
  Numeric (numberText n) ∧
    ∃ m plain, numeral? (numberText n).toList = some (m, plain, []) ∧ numberOf m plain = .number n

theorem NumberReads.append {n : JsonNumber} (h : NumberReads n) :
    ∃ c front, (numberText n).toList = c :: front ∧ numeralChar c = true ∧
      ∀ rest, Breaks rest → ∃ m plain,
        numeral? (c :: (front ++ rest)) = some (m, plain, rest) ∧ numberOf m plain = .number n := by
  obtain ⟨-, m, plain, hn, ho⟩ := h
  obtain ⟨c, front, hf, hc, hr⟩ := numeral?_append hn
  rw [List.append_nil] at hf
  exact ⟨c, front, hf, hc, fun rest hb => ⟨m, plain, hr rest hb, ho⟩⟩

theorem unsigned?_digits (negative : Bool) (n : Nat) :
    unsigned? negative (digits n) = some (⟨negative, digits n, [], 0⟩, true, []) := by
  have hs : spanDigits (digits n) = (digits n, []) := by
    have ha := spanDigits_append (fun _ => isDigit_of_mem_digits (n := n)) breaks_nil.notDigit
    rwa [List.append_nil] at ha
  have hw : ¬ ((digits n).isEmpty || ((digits n).head? == some '0' && (digits n).length != 1)) =
      true := by
    rcases Nat.eq_zero_or_pos n with rfl | hn
    · decide
    · simp [digits_ne_nil, head?_digits hn]
  simp only [unsigned?, hs]
  rw [if_neg hw]
  rfl

theorem numberReads_nat {n : Nat} (h : n ≤ max64) : NumberReads (.nat n) := by
  refine ⟨numeric_ofNat n, ⟨false, digits n, [], 0⟩, true, ?_, ?_⟩
  · obtain ⟨d, ds, hd⟩ := List.exists_cons_of_ne_nil (digits_ne_nil n)
    have hu := unsigned?_digits false n
    rw [numberText, Decimal.ofNat, String.toList_ofList]
    rw [hd] at hu ⊢
    rw [numeral?_of_digit (isDigit_of_mem_digits (n := n) (by simp [hd])), hu]
  · simp [numberOf, h]

theorem numberReads_negative {n : Nat} (h0 : 0 < n) (h : n ≤ maxSigned64 + 1) :
    NumberReads (.negative n) := by
  refine ⟨numeric_append.mpr ⟨by decide, numeric_ofNat n⟩, ⟨true, digits n, [], 0⟩, true, ?_, ?_⟩
  · have ht : (numberText (.negative n)).toList = '-' :: digits n := by
      simp [numberText, Decimal.ofNat]
    rw [ht]
    exact unsigned?_digits true n
  · have h64 : n ≤ max64 := h.trans (by decide)
    have hne : n ≠ 0 := by omega
    simp [numberOf, h, h64, hne]

/-! ### Doubles -/

theorem numeric_positionalText (s : Scientific) (keepsPoint : Bool) :
    Numeric (positionalText s keepsPoint) := by
  unfold positionalText
  split
  · rw [numeric_append, String.ofList_append, numeric_append]
    refine ⟨⟨numeric_digits fun _ h => h, numeric_zeros _⟩, ?_⟩
    split
    · decide
    · decide
  · dsimp only
    split
    · rw [numeric_append, numeric_append]
      exact ⟨⟨numeric_digits fun _ h => List.mem_of_mem_take h, by decide⟩,
        numeric_digits fun _ h => List.mem_of_mem_drop h⟩
    · rw [numeric_append, String.ofList_append, numeric_append]
      exact ⟨by decide, numeric_zeros _, numeric_digits fun _ h => h⟩

theorem numeric_exponentText (s : Scientific) {sign : String} (h : Numeric sign) :
    Numeric (exponentText s sign) := by
  unfold exponentText
  simp only [numeric_append]
  refine ⟨⟨⟨⟨numeric_digits fun _ h => List.mem_of_mem_take h, ?_⟩, by decide⟩, ?_⟩, numeric_ofNat _⟩
  · split
    · simp [Numeric]
    · rw [numeric_append]
      exact ⟨by decide, numeric_digits fun _ h => List.mem_of_mem_drop h⟩
  · split
    · decide
    · exact h

/-- A double is written with characters of numerals, or as one of the words of its layout. -/
theorem text_cases {l : Layout} (h : Numeric l.exponentSign) (x : Float) :
    l.text x ∈ [l.nan, l.infinity, l.negativeInfinity] ∨ Numeric (l.text x) := by
  unfold Layout.text
  split
  · exact .inl (by simp)
  · exact .inl (by split <;> simp)
  · refine .inr ?_
    dsimp only
    rw [numeric_append]
    refine ⟨by split <;> simp [Numeric]; decide, ?_⟩
    split
    · exact numeric_positionalText _ _
    · exact numeric_exponentText _ h

/-- A finite double is written with characters of numerals, any other as `null`. -/
theorem text_json (x : Float) : Layout.json.text x = "null" ∨ Numeric (Layout.json.text x) := by
  simpa [Layout.json] using text_cases (l := Layout.json) (by decide) x

theorem not_space_of_numeralChar {c : Char} (h : numeralChar c = true) : isSpace c = false := by
  have hne : ∀ d, numeralChar d = false → c ≠ d := by
    rintro d hd rfl
    rw [h] at hd
    cases hd
  simp [isSpace, hne ' ' (by decide), hne '\n' (by decide), hne '\t' (by decide),
    hne '\r' (by decide)]

/-- What starts like a numeral is read as one. -/
theorem value?_numeral {c : Char} (h : numeralChar c = true) (fuel : Nat) (cs : List Char) :
    value? (fuel + 1) (c :: cs) =
      (numeral? (c :: cs)).map fun (n, plain, r) => (numberOf n plain, r) := by
  have hne : ∀ d, numeralChar d = false → c ≠ d := by
    rintro d hd rfl
    rw [h] at hd
    cases hd
  have hs : skip (c :: cs) = c :: cs := by
    rw [skip, List.dropWhile_cons_of_neg (by simp [not_space_of_numeralChar h])]
  rw [value?, hs]
  split
  · next heq => cases heq
  · next heq => exact absurd (List.cons.inj heq).1 (hne _ (by decide))
  · next heq => exact absurd (List.cons.inj heq).1 (hne _ (by decide))
  · next heq => exact absurd (List.cons.inj heq).1 (hne _ (by decide))
  · next heq => exact absurd (List.cons.inj heq).1 (hne _ (by decide))
  · next heq => exact absurd (List.cons.inj heq).1 (hne _ (by decide))
  · next heq => exact absurd (List.cons.inj heq).1 (hne _ (by decide))
  · rfl

/-- Whether a double reads back from its own text. -/
def ReadsBack (x : Float) : Prop := parse? (ofFloat x).pretty = some (ofFloat x)

instance (x : Float) : Decidable (ReadsBack x) :=
  match h : parse? (ofFloat x).pretty with
  | some (.number (.float y)) =>
    if hxy : y = x then .isTrue (by rw [ReadsBack, h, hxy, ofFloat])
    else .isFalse (by rw [ReadsBack, h]; simpa [ofFloat] using hxy)
  | none => .isFalse (by rw [ReadsBack, h]; simp)
  | some .null | some (.bool _) | some (.string _) | some .broken | some (.array _)
  | some (.object _) | some (.number (.nat _)) | some (.number (.negative _)) =>
    .isFalse (by rw [ReadsBack, h]; simp [ofFloat])

theorem ofBytes?_toUTF8 (s : String) :
    ofBytes? s.toUTF8 = (value? ((latin s.toList).length + 1) (latin s.toList)).bind fun (j, r) =>
      if (skip r).isEmpty then some j else none := by
  rw [ofBytes?, toUTF8_latin]
  rfl

theorem parse?_null : parse? "null" = some .null := by
  rw [parse?, ofBytes?_toUTF8]
  rfl

theorem skip_of_numeric {r : List Char} (h : ∀ c ∈ r, numeralChar c = true) : skip r = r := by
  cases r with
  | nil => rfl
  | cons c r =>
    rw [skip, List.dropWhile_cons_of_neg]
    simp [not_space_of_numeralChar (h c List.mem_cons_self)]

/-- A double whose own text reads back is written as a numeral that stands for it. -/
theorem numberReads_float {x : Float} (h : ReadsBack x) : NumberReads (.float x) := by
  have ht : (ofFloat x).pretty = Layout.json.text x := rfl
  rw [ReadsBack, ht] at h
  rcases text_json x with hx | hx
  · rw [hx, parse?_null] at h
    cases h
  · rw [parse?, ofBytes?_toUTF8, latin_of_ascii fun c hc => numeralChar_ascii (hx c hc)] at h
    refine ⟨hx, ?_⟩
    have hx' : ∀ c ∈ (Layout.json.text x).toList, numeralChar c = true := hx
    unfold numberText
    generalize (Layout.json.text x).toList = cs at h hx'
    cases cs with
    | nil => cases h
    | cons c cs =>
      rw [value?_numeral (hx' c List.mem_cons_self)] at h
      obtain ⟨⟨j, r⟩, hv, h⟩ := Option.bind_eq_some_iff.mp h
      obtain ⟨⟨m, plain, r'⟩, hn, hj⟩ := Option.map_eq_some_iff.mp hv
      cases hj
      obtain ⟨d, front, hf, -, -⟩ := numeral?_append hn
      have hr : skip r = r := skip_of_numeric fun b hb => hx' b (by rw [hf]; simp [hb])
      simp only [hr] at h
      split at h
      · next h0 =>
        obtain rfl := List.isEmpty_iff.mp h0
        exact ⟨m, plain, hn, Option.some.inj h⟩
      · cases h

end SuiteBench.Json
