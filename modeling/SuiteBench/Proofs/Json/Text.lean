import SuiteBench.Json.Printer
import SuiteBench.Json.Reader
import SuiteBench.Proofs.Text.Utf8

/-!
# Proofs.Json.Text — quoted strings read back

The reader works on bytes, each held as the character with its number.  A text inside quotes is read
back piece by piece, whatever characters it holds.
-/

namespace SuiteBench.Json

open Text.Utf8

/-! ### Bytes as characters -/

/-- The characters that stand for the bytes of `cs`. -/
def latin (cs : List Char) : List Char :=
  (cs.flatMap String.utf8EncodeChar).map fun u => Char.ofNat u.toNat

theorem toUTF8_latin (s : String) :
    (s.toUTF8.data.toList.map fun u => Char.ofNat u.toNat) = latin s.toList := by
  rw [toList_toUTF8, encode, latin]

@[simp] theorem latin_nil : latin [] = [] := rfl

@[simp] theorem latin_append (a b : List Char) : latin (a ++ b) = latin a ++ latin b := by
  simp [latin]

theorem latin_cons_of_ascii {c : Char} (cs : List Char) (h : c.toNat < 128) :
    latin (c :: cs) = c :: latin cs := by
  have hb : (UInt8.ofNat c.toNat).toNat = c.toNat := by
    rw [UInt8.toNat_ofNat']
    omega
  simp [latin, utf8EncodeChar_of_ascii h, hb]

theorem latin_of_ascii : ∀ {cs : List Char}, (∀ c ∈ cs, c.toNat < 128) → latin cs = cs
  | [], _ => rfl
  | c :: cs, h => by
    rw [latin_cons_of_ascii cs (h c List.mem_cons_self),
      latin_of_ascii fun d hd => h d (List.mem_cons_of_mem _ hd)]

theorem toNat_ofNat_byte (u : UInt8) : (Char.ofNat u.toNat).toNat = u.toNat := by
  have hu : u.toNat < 256 := u.toNat_lt
  have hv : u.toNat.isValidChar := by left; omega
  rw [Char.ofNat, dif_pos hv]
  rfl

/-! ### Pieces -/

/-- The pieces that a character is read as inside quotes. -/
def piecesOf (c : Char) : List Piece :=
  if c.toNat < 32 && c != '\n' && c != '\r' && c != '\t' && c.toNat != 8 && c.toNat != 12 then
    [.unit c.toNat]
  else (String.utf8EncodeChar c).map fun u => .byte u.toNat

theorem hexValue?_hexDigit : ∀ {n : Nat}, n < 16 → hexValue? (hexDigit n) = some n := by
  decide

theorem hexDigit_ascii : ∀ {n : Nat}, n < 16 → (hexDigit n).toNat < 128 := by
  decide

theorem pieces?_byte {c : Char} {cs : List Char} (hq : c ≠ '"') (hb : c ≠ '\\')
    (h : 32 ≤ c.toNat) :
    pieces? (c :: cs) = (pieces? cs).map fun (ps, r) => (.byte c.toNat :: ps, r) := by
  have hn : (decide (c.toNat < 32) || c == '\\') = false := by
    simp only [Bool.or_eq_false_iff, decide_eq_false_iff_not, beq_eq_false_iff_ne]
    exact ⟨by omega, hb⟩
  rw [pieces?.eq_def]
  split
  · next heq => cases heq
  · next heq => exact absurd (List.cons.inj heq).1 hq
  · next heq => exact absurd (List.cons.inj heq).1 hb
  · next heq => exact absurd (List.cons.inj heq).1 hb
  · next heq =>
    cases heq
    rw [hn]
    cases pieces? cs <;> rfl

theorem pieces?_bytes : ∀ {us : List UInt8} {cs : List Char}, (∀ u ∈ us, 128 ≤ u.toNat) →
    pieces? (us.map (fun u => Char.ofNat u.toNat) ++ cs) =
      (pieces? cs).map fun (ps, r) => (us.map (fun u => .byte u.toNat) ++ ps, r)
  | [], cs, _ => by simp
  | u :: us, cs, h => by
    have hu := h u List.mem_cons_self
    have hc := toNat_ofNat_byte u
    have hne : ∀ d : Char, d.toNat < 128 → Char.ofNat u.toNat ≠ d := by
      rintro d hd rfl
      omega
    rw [List.map_cons, List.cons_append,
      pieces?_byte (hne _ (by decide)) (hne _ (by decide)) (by omega),
      pieces?_bytes fun v hv => h v (List.mem_cons_of_mem _ hv), hc]
    cases pieces? cs <;> rfl

theorem pieces?_escaped {e d : Char} {cs : List Char} (hu : e ≠ 'u') (he : escaped? e = some d) :
    pieces? ('\\' :: e :: cs) = (pieces? cs).map fun (ps, r) => (.byte d.toNat :: ps, r) := by
  rw [pieces?.eq_def]
  split
  · next heq => cases heq
  · next heq => cases heq
  · next heq => exact absurd (List.cons.inj (List.cons.inj heq).2).1 hu
  · next heq =>
    cases heq
    rw [he]
    cases pieces? cs <;> rfl
  · next hn heq => cases heq; exact absurd rfl (hn _ _ rfl)

theorem pieces?_unit {n : Nat} {cs : List Char} (hn : n < 256) :
    pieces? ('\\' :: 'u' :: '0' :: '0' :: hexDigit (n / 16) :: hexDigit (n % 16) :: cs) =
      (pieces? cs).map fun (ps, r) => (.unit n :: ps, r) := by
  have hx : hex4? '0' '0' (hexDigit (n / 16)) (hexDigit (n % 16)) = some n := by
    have h0 : hexValue? '0' = some 0 := by decide
    simp only [hex4?, h0, hexValue?_hexDigit (by omega : n / 16 < 16),
      hexValue?_hexDigit (by omega : n % 16 < 16), Option.bind_eq_bind, Option.bind_some,
      Option.some.injEq]
    omega
  rw [pieces?.eq_def]
  split
  · next heq => cases heq
  · next heq => cases heq
  · next heq =>
    cases heq
    rw [hx]
    cases pieces? cs <;> rfl
  · next hn heq => cases heq; exact absurd rfl (hn _ _ _ _ _ rfl)
  · next hn heq => cases heq; exact absurd rfl (hn _ _ rfl)

/-- A character inside quotes is read as its pieces. -/
theorem pieces?_escapeChar (c : Char) (cs : List Char) :
    pieces? (latin (escapeChar c) ++ cs) = (pieces? cs).map fun (ps, r) => (piecesOf c ++ ps, r) := by
  by_cases hq : c = '"'
  · subst hq; exact pieces?_escaped (e := '"') (by decide) rfl
  by_cases hb : c = '\\'
  · subst hb; exact pieces?_escaped (e := '\\') (by decide) rfl
  by_cases hn : c = '\n'
  · subst hn; exact pieces?_escaped (e := 'n') (by decide) rfl
  by_cases hr : c = '\r'
  · subst hr; exact pieces?_escaped (e := 'r') (by decide) rfl
  by_cases ht : c = '\t'
  · subst ht; exact pieces?_escaped (e := 't') (by decide) rfl
  by_cases h8 : c = Char.ofNat 8
  · subst h8; exact pieces?_escaped (e := 'b') (by decide) rfl
  by_cases h12 : c = Char.ofNat 12
  · subst h12; exact pieces?_escaped (e := 'f') (by decide) rfl
  have h8' : c.toNat ≠ 8 := fun h => h8 (Char.toNat_inj.mp h)
  have h12' : c.toNat ≠ 12 := fun h => h12 (Char.toNat_inj.mp h)
  by_cases hc : c.toNat < 32
  · have he : escapeChar c =
        ['\\', 'u', '0', '0', hexDigit (c.toNat / 16), hexDigit (c.toNat % 16)] := by
      simp [escapeChar, hq, hb, hn, hr, ht, h8', h12', hc]
    have hp : piecesOf c = [.unit c.toNat] := by
      simp [piecesOf, hn, hr, ht, h8', h12', hc]
    have hl : latin (escapeChar c) = escapeChar c := latin_of_ascii fun d hd => by
      rw [he] at hd
      simp only [List.mem_cons, List.not_mem_nil, or_false] at hd
      rcases hd with rfl | rfl | rfl | rfl | rfl | rfl
      any_goals decide
      · exact hexDigit_ascii (by omega)
      · exact hexDigit_ascii (by omega)
    rw [hl, he, hp]
    exact pieces?_unit (by omega)
  · have he : escapeChar c = [c] := by
      simp [escapeChar, hq, hb, hn, hr, ht, h8', h12', hc]
    have hp : piecesOf c = (String.utf8EncodeChar c).map fun u => .byte u.toNat := by
      simp [piecesOf, hc]
    rw [he, hp]
    by_cases ha : c.toNat < 128
    · have hbyte : (UInt8.ofNat c.toNat).toNat = c.toNat := by
        rw [UInt8.toNat_ofNat']
        omega
      rw [latin_cons_of_ascii [] ha, utf8EncodeChar_of_ascii ha]
      have hp : pieces? (c :: cs) = _ := pieces?_byte hq hb (by omega)
      simpa [hbyte] using hp
    · have hl : latin [c] = (String.utf8EncodeChar c).map fun u => Char.ofNat u.toNat := by
        simp [latin]
      rw [hl]
      exact pieces?_bytes fun u hu => le_of_mem_utf8EncodeChar (by omega) hu

theorem pieces?_quoted (rest : List Char) : ∀ cs : List Char,
    pieces? (latin (cs.flatMap escapeChar) ++ '"' :: rest) = some (cs.flatMap piecesOf, rest)
  | [] => rfl
  | c :: cs => by
    rw [List.flatMap_cons, latin_append, List.append_assoc, pieces?_escapeChar,
      pieces?_quoted rest cs]
    rfl

/-! ### The text of the pieces -/

theorem piecesBytes?_unit {n : Nat} (hn : n < 32) (ps : List Piece) :
    piecesBytes? (.unit n :: ps) =
      (piecesBytes? ps).map (String.utf8EncodeChar (Char.ofNat n) ++ ·) := by
  have h1 : ¬ 0xD800 ≤ n := by omega
  have h2 : ¬ 0xDC00 ≤ n := by omega
  rcases ps with - | ⟨m | m, ps⟩ <;> simp [piecesBytes?, h1, h2]

theorem piecesBytes?_bytes (ps : List Piece) : ∀ us : List UInt8,
    piecesBytes? (us.map (fun u => .byte u.toNat) ++ ps) = (piecesBytes? ps).map (us ++ ·)
  | [] => by simp
  | u :: us => by
    rw [List.map_cons, List.cons_append, piecesBytes?, piecesBytes?_bytes ps us]
    cases piecesBytes? ps <;> simp

theorem piecesBytes?_piecesOf (c : Char) (ps : List Piece) :
    piecesBytes? (piecesOf c ++ ps) = (piecesBytes? ps).map (String.utf8EncodeChar c ++ ·) := by
  unfold piecesOf
  split
  · next h =>
    simp only [Bool.and_eq_true, decide_eq_true_eq] at h
    have := piecesBytes?_unit h.1.1.1.1.1 ps
    rwa [Char.ofNat_toNat] at this
  · exact piecesBytes?_bytes ps _

theorem piecesBytes?_flatMap : ∀ cs : List Char,
    piecesBytes? (cs.flatMap piecesOf) = some (cs.flatMap String.utf8EncodeChar)
  | [] => rfl
  | c :: cs => by
    rw [List.flatMap_cons, piecesBytes?_piecesOf, piecesBytes?_flatMap cs]
    rfl

/-- A quoted text is read back, with what follows the closing quote left over. -/
theorem piecesText?_flatMap (s : String) : piecesText? (s.toList.flatMap piecesOf) = some s := by
  have hb : (⟨(s.toList.flatMap String.utf8EncodeChar).toArray⟩ : ByteArray) = s.toByteArray := by
    rw [← String.utf8Encode_toList, List.utf8Encode, ← List.data_toByteArray]
  rw [piecesText?, piecesBytes?_flatMap, Option.bind_some, hb, String.fromUTF8?,
    dif_pos s.isValidUTF8]
  rfl

end SuiteBench.Json
