import Mathlib.Data.List.Infix
import Mathlib.Tactic.SplitIfs
import SuiteBench.Text.Utf8

/-!
# Proofs.Text.Utf8 — a text is read back from its bytes

The leading byte of a character promises how many bytes follow and bounds the first of them; the bytes
that encode a character keep the promise, so that the units of a text are its characters.
-/

namespace SuiteBench.Text.Utf8

/-- The bytes that encode a text. -/
def encode (cs : List Char) : List UInt8 := cs.flatMap String.utf8EncodeChar

theorem toList_toUTF8 (s : String) : s.toUTF8.data.toList = encode s.toList := by
  rw [String.toUTF8_eq_toByteArray, ← String.utf8Encode_toList, List.utf8Encode,
    List.toList_data_toByteArray, encode]

@[simp] theorem encode_nil : encode [] = [] := rfl

@[simp] theorem encode_cons (c : Char) (cs : List Char) :
    encode (c :: cs) = String.utf8EncodeChar c ++ encode cs := rfl

@[simp] theorem encode_append (a b : List Char) : encode (a ++ b) = encode a ++ encode b :=
  List.flatMap_append

theorem utf8EncodeChar_of_ascii {c : Char} (h : c.toNat < 128) :
    String.utf8EncodeChar c = [UInt8.ofNat c.toNat] := by
  have hv : c.val.toNat ≤ 127 := Nat.le_of_lt_succ h
  rw [String.utf8EncodeChar, if_pos hv]
  rfl

theorem encode_ne_nil {cs : List Char} (h : cs ≠ []) : encode cs ≠ [] := by
  cases cs with
  | nil => exact absurd rfl h
  | cons c cs =>
    intro he
    have hc := (List.append_eq_nil_iff.mp (encode_cons c cs ▸ he)).1
    unfold String.utf8EncodeChar at hc
    dsimp only at hc
    split_ifs at hc

/-- The bytes of a character beyond ASCII are none of ASCII. -/
theorem le_of_mem_utf8EncodeChar {c : Char} (h : 128 ≤ c.toNat) {u : UInt8}
    (hu : u ∈ String.utf8EncodeChar c) : 128 ≤ u.toNat := by
  have hv : ¬ c.val.toNat ≤ 127 := Nat.not_le.mpr h
  unfold String.utf8EncodeChar at hu
  simp only [hv, if_false] at hu
  split at hu
  · simp only [List.mem_cons, List.not_mem_nil, or_false] at hu
    rcases hu with rfl | rfl <;> rw [UInt8.toNat_ofNat'] <;> omega
  · split at hu
    · simp only [List.mem_cons, List.not_mem_nil, or_false] at hu
      rcases hu with rfl | rfl | rfl <;> rw [UInt8.toNat_ofNat'] <;> omega
    · simp only [List.mem_cons, List.not_mem_nil, or_false] at hu
      rcases hu with rfl | rfl | rfl | rfl <;> rw [UInt8.toNat_ofNat'] <;> omega

/-- Only the character itself has its byte, if it is one of ASCII. -/
theorem ne_of_mem_utf8EncodeChar {a c : Char} (ha : a.toNat < 128) (hc : c ≠ a) {b : UInt8}
    (hb : b ∈ String.utf8EncodeChar c) : b ≠ UInt8.ofNat a.toNat := by
  have han : (UInt8.ofNat a.toNat).toNat = a.toNat := by
    rw [UInt8.toNat_ofNat']
    omega
  rintro rfl
  by_cases h : c.toNat < 128
  · rw [utf8EncodeChar_of_ascii h, List.mem_singleton] at hb
    have hn := congrArg UInt8.toNat hb
    rw [han, UInt8.toNat_ofNat', Nat.mod_eq_of_lt (by omega)] at hn
    exact hc (Char.toNat_inj.mp hn.symm)
  · have hle := le_of_mem_utf8EncodeChar (Nat.le_of_not_lt h) hb
    omega

/-! ### What a leading byte promises -/

theorem promise_eq (b : UInt8) : promise b =
    if b.toNat < 128 then some (0, 0x80, 0xBF)
    else if 194 ≤ b.toNat ∧ b.toNat ≤ 223 then some (1, 0x80, 0xBF)
    else if b.toNat = 224 then some (2, 0xA0, 0xBF)
    else if b.toNat = 237 then some (2, 0x80, 0x9F)
    else if 225 ≤ b.toNat ∧ b.toNat ≤ 239 then some (2, 0x80, 0xBF)
    else if b.toNat = 240 then some (3, 0x90, 0xBF)
    else if 241 ≤ b.toNat ∧ b.toNat ≤ 243 then some (3, 0x80, 0xBF)
    else if b.toNat = 244 then some (3, 0x80, 0x8F)
    else none := by
  simp only [promise, UInt8.lt_iff_toNat_lt, UInt8.le_iff_toNat_le, Bool.and_eq_true,
    decide_eq_true_eq, beq_iff_eq, ← UInt8.toNat_inj, UInt8.reduceToNat]

/-- Bytes within the bounds continue a character. -/
theorem continuation_append {lo hi : UInt8} {b : UInt8} {bs rest : List UInt8}
    (hlo : lo.toNat ≤ b.toNat) (hhi : b.toNat ≤ hi.toNat)
    (h : ∀ x ∈ bs, 128 ≤ x.toNat ∧ x.toNat ≤ 191) :
    continuation (bs.length + 1) lo hi (b :: bs ++ rest) = b :: bs := by
  have hb : (lo ≤ b && b ≤ hi) = true := by
    rw [Bool.and_eq_true, decide_eq_true_eq, decide_eq_true_eq, UInt8.le_iff_toNat_le,
      UInt8.le_iff_toNat_le]
    exact ⟨hlo, hhi⟩
  rw [List.cons_append, continuation, hb, if_pos rfl]
  congr 1
  clear hb hlo hhi
  induction bs with
  | nil => rfl
  | cons x bs ih =>
    obtain ⟨hx, hbs⟩ := List.forall_mem_cons.mp h
    have hbounds : ((0x80 : UInt8) ≤ x && x ≤ (0xBF : UInt8)) = true := by
      rw [Bool.and_eq_true, decide_eq_true_eq, decide_eq_true_eq, UInt8.le_iff_toNat_le,
        UInt8.le_iff_toNat_le]
      exact hx
    rw [List.length_cons, List.cons_append, continuation, hbounds, if_pos rfl, ih hbs]

/-- A first unit whose promise is kept. -/
theorem firstUnit_of_promise {b x : UInt8} {bs rest : List UInt8} {lo hi : UInt8}
    (hp : promise b = some (bs.length + 1, lo, hi)) (hlo : lo.toNat ≤ x.toNat)
    (hhi : x.toNat ≤ hi.toNat) (h : ∀ y ∈ bs, 128 ≤ y.toNat ∧ y.toNat ≤ 191) :
    firstUnit b (x :: bs ++ rest) = (some (Char.ofNat ((x :: bs).foldl
      (fun acc m => acc * 64 + m.toNat % 64) (leadBits b (bs.length + 1)))), bs.length + 1) := by
  rw [firstUnit, hp]
  simp only [continuation_append hlo hhi h, List.length_cons, beq_self_eq_true, if_true]

/-! ### Reading a text back -/

theorem toNat_ofNat_of_lt {n : Nat} (h : n < 256) : (UInt8.ofNat n).toNat = n := by
  rw [UInt8.toNat_ofNat']
  omega

/-- The first unit of the bytes of a character is the character. -/
theorem firstUnit_encode (c : Char) : ∃ b bs, String.utf8EncodeChar c = b :: bs ∧
    ∀ rest, firstUnit b (bs ++ rest) = (some c, bs.length) := by
  have hchar : Char.ofNat c.val.toNat = c := Char.ofNat_toNat c
  have hvalid : c.val.toNat < 55296 ∨ 57343 < c.val.toNat ∧ c.val.toNat < 1114112 := c.valid
  unfold String.utf8EncodeChar
  generalize c.val.toNat = v at hchar hvalid
  dsimp only
  split
  · have hb := toNat_ofNat_of_lt (show v < 256 by omega)
    refine ⟨_, [], rfl, fun rest => ?_⟩
    rw [firstUnit, promise_eq, hb, if_pos (by omega)]
    simp [continuation, leadBits, hb, hchar]
  split
  · have hb := toNat_ofNat_of_lt (show v / 64 % 32 + 192 < 256 by omega)
    have hx := toNat_ofNat_of_lt (show v % 64 + 128 < 256 by omega)
    have hp : promise (UInt8.ofNat (v / 64 % 32 + 192)) = some (1, 0x80, 0xBF) := by
      rw [promise_eq, hb, if_neg (by omega), if_pos (by omega)]
    refine ⟨_, _, rfl, fun rest => ?_⟩
    rw [firstUnit_of_promise hp (by rw [hx]; simp) (by rw [hx]; simp; omega) (by simp)]
    simp only [List.length_nil, List.length_cons, List.foldl_cons, List.foldl_nil, leadBits, hb, hx]
    rw [show (v / 64 % 32 + 192) % 32 * 64 + (v % 64 + 128) % 64 = v by omega, hchar]
  split
  · have hb := toNat_ofNat_of_lt (show v / 4096 % 16 + 224 < 256 by omega)
    have hx := toNat_ofNat_of_lt (show v / 64 % 64 + 128 < 256 by omega)
    have hy := toNat_ofNat_of_lt (show v % 64 + 128 < 256 by omega)
    -- after the least and the greatest leading byte the second byte has closer bounds
    have hp : ∃ lo hi : UInt8, promise (UInt8.ofNat (v / 4096 % 16 + 224)) = some (2, lo, hi) ∧
        lo.toNat ≤ v / 64 % 64 + 128 ∧ v / 64 % 64 + 128 ≤ hi.toNat := by
      rw [promise_eq, hb, if_neg (by omega), if_neg (by omega)]
      split
      · exact ⟨_, _, rfl, by simp; omega, by simp; omega⟩
      split
      · exact ⟨_, _, rfl, by simp, by simp; omega⟩
      · rw [if_pos (by omega)]
        exact ⟨_, _, rfl, by simp, by simp; omega⟩
    obtain ⟨lo, hi, hp, hlo, hhi⟩ := hp
    refine ⟨_, _, rfl, fun rest => ?_⟩
    rw [firstUnit_of_promise hp (by rwa [hx]) (by rwa [hx]) (by simp; omega)]
    simp only [List.length_nil, List.length_cons, List.foldl_cons, List.foldl_nil, leadBits, hb, hx,
      hy]
    rw [show ((v / 4096 % 16 + 224) % 16 * 64 + (v / 64 % 64 + 128) % 64) * 64 +
      (v % 64 + 128) % 64 = v by omega, hchar]
  · have hb := toNat_ofNat_of_lt (show v / 262144 % 8 + 240 < 256 by omega)
    have hx := toNat_ofNat_of_lt (show v / 4096 % 64 + 128 < 256 by omega)
    have hy := toNat_ofNat_of_lt (show v / 64 % 64 + 128 < 256 by omega)
    have hz := toNat_ofNat_of_lt (show v % 64 + 128 < 256 by omega)
    have hp : ∃ lo hi : UInt8, promise (UInt8.ofNat (v / 262144 % 8 + 240)) = some (3, lo, hi) ∧
        lo.toNat ≤ v / 4096 % 64 + 128 ∧ v / 4096 % 64 + 128 ≤ hi.toNat := by
      rw [promise_eq, hb, if_neg (by omega), if_neg (by omega), if_neg (by omega),
        if_neg (by omega), if_neg (by omega)]
      split
      · exact ⟨_, _, rfl, by simp; omega, by simp; omega⟩
      split
      · exact ⟨_, _, rfl, by simp, by simp; omega⟩
      · rw [if_pos (by omega)]
        exact ⟨_, _, rfl, by simp, by simp; omega⟩
    obtain ⟨lo, hi, hp, hlo, hhi⟩ := hp
    refine ⟨_, _, rfl, fun rest => ?_⟩
    rw [firstUnit_of_promise hp (by rwa [hx]) (by rwa [hx]) (by simp; omega)]
    simp only [List.length_nil, List.length_cons, List.foldl_cons, List.foldl_nil, leadBits, hb, hx,
      hy, hz]
    rw [show (((v / 262144 % 8 + 240) % 8 * 64 + (v / 4096 % 64 + 128) % 64) * 64 +
      (v / 64 % 64 + 128) % 64) * 64 + (v % 64 + 128) % 64 = v by omega, hchar]

theorem units_encode (cs : List Char) : (units (encode cs)).map Prod.fst = cs.map some := by
  induction cs with
  | nil => simp [units]
  | cons c cs ih =>
    obtain ⟨b, bs, hc, hunit⟩ := firstUnit_encode c
    rw [encode_cons, hc, List.cons_append, units, hunit]
    simp only [List.drop_left, List.map_cons, ih]

/-- A text is decoded from its bytes. -/
theorem decode_encode (cs : List Char) : decode (encode cs) = .ok cs := by
  have hunits := units_encode cs
  have hall : (units (encode cs)).all (·.1.isSome) = true := by
    refine List.all_eq_true.mpr fun x hx => ?_
    have hmem := List.mem_map_of_mem (f := Prod.fst) hx
    rw [hunits] at hmem
    obtain ⟨c, -, hc⟩ := List.mem_map.mp hmem
    rw [← hc, Option.isSome_some]
  have hchars : (units (encode cs)).filterMap (·.1) = cs := by
    have hmap := List.filterMap_map (f := Prod.fst) (g := id) (l := units (encode cs))
    rw [hunits] at hmap
    simpa using hmap.symm
  simp only [decode, hall, if_true, hchars]

/-! ### A line feed after broken text -/

theorem le_of_promise {b lo hi : UInt8} {n : Nat} (h : promise b = some (n, lo, hi)) :
    0x80 ≤ lo := by
  rw [promise_eq] at h
  split_ifs at h <;> cases h <;> decide

/-- A line feed continues no character. -/
theorem continuation_append_feed {lo : UInt8} (hlo : 0x80 ≤ lo) (n : Nat) (hi : UInt8)
    (rest : List UInt8) : continuation n lo hi (rest ++ [10]) = continuation n lo hi rest := by
  induction rest generalizing n lo hi with
  | nil =>
    cases n with
    | zero => rfl
    | succ n =>
      have hno : ¬ lo ≤ 10 := fun h => absurd (UInt8.le_trans hlo h) (by decide)
      simp [continuation, hno]
  | cons b rest ih =>
    cases n with
    | zero => rfl
    | succ n => rw [List.cons_append, continuation, continuation, ih (by decide)]

theorem length_continuation_le (n : Nat) (lo hi : UInt8) (rest : List UInt8) :
    (continuation n lo hi rest).length ≤ rest.length := by
  fun_induction continuation n lo hi rest with
  | case3 n lo hi b rest hb ih => exact Nat.succ_le_succ ih
  | _ => simp

theorem firstUnit_append_feed (b : UInt8) (rest : List UInt8) :
    firstUnit b (rest ++ [10]) = firstUnit b rest := by
  rw [firstUnit, firstUnit]
  cases hp : promise b with
  | none => rfl
  | some p => simp only [continuation_append_feed (le_of_promise hp)]

theorem firstUnit_le (b : UInt8) (rest : List UInt8) : (firstUnit b rest).2 ≤ rest.length := by
  rw [firstUnit]
  cases promise b with
  | none => exact Nat.zero_le _
  | some p =>
    have hle := length_continuation_le p.1 p.2.1 p.2.2 rest
    dsimp only
    split
    · next hlen => rwa [← beq_iff_eq.mp hlen]
    · exact hle

/-- A line feed is read on its own, whatever stands in front of it. -/
theorem lossyChars_append_feed (bytes : List UInt8) :
    lossyChars (bytes ++ [10]) = lossyChars bytes ++ ['\n'] := by
  have hunits : units (bytes ++ [10]) = units bytes ++ [(some '\n', 1)] := by
    induction bytes using units.induct with
    | case1 =>
      have hfeed : firstUnit 10 [] = (some '\n', 0) := by decide
      simp [units, hfeed]
    | case2 b rest u n hunit ih =>
      have hle : n ≤ rest.length := by simpa [hunit] using firstUnit_le b rest
      rw [List.cons_append, units, units, firstUnit_append_feed, hunit]
      simp only [List.drop_append_of_le_length hle, ih, List.cons_append]
  rw [lossyChars, hunits, List.map_append, lossyChars]
  rfl

end SuiteBench.Text.Utf8
