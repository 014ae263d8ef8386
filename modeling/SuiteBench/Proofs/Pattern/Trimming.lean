import Mathlib.Data.List.TakeWhile
import SuiteBench.Proofs.Pattern.Spelling
import SuiteBench.Proofs.Pattern.Surroundings

/-!
# Proofs.Pattern.Trimming — matches in a text without its outer blanks

A match that neither starts nor ends with a blank lies within the trimmed text.  Whether all matches of
a pattern are of this kind is read off the pattern: from what it may start with, and from what its
mirror image may start with.  What such a pattern asks of places it finds in the trimmed text as well,
since blanks belong to no word.
-/

namespace SuiteBench

open Relation (ReflTransGen)

/-! ### Blanks around a text -/

namespace Text

/-- The code points of the blanks. -/
def blankCodes : List Nat :=
  [9, 10, 11, 12, 13, 0x20, 0x85, 0xA0, 0x1680, 0x2000, 0x2001, 0x2002, 0x2003, 0x2004, 0x2005, 0x2006,
    0x2007, 0x2008, 0x2009, 0x200A, 0x2028, 0x2029, 0x202F, 0x205F, 0x3000]

theorem mem_blankCodes {x : Char} (h : isBlank x = true) : x.toNat ∈ blankCodes := by
  simp only [isBlank, Bool.or_eq_true, Bool.and_eq_true, decide_eq_true_eq, beq_iff_eq] at h
  simp only [blankCodes, List.mem_cons, List.not_mem_nil, or_false]
  omega

/-- What holds of the characters with these code points holds of every blank. -/
theorem forall_blank (p : Char → Bool) (hp : blankCodes.all (fun n => p (Char.ofNat n)) = true)
    {x : Char} (h : isBlank x = true) : p x = true := by
  have hx := List.all_eq_true.mp hp _ (mem_blankCodes h)
  rwa [Char.ofNat_toNat] at hx

theorem isWord_of_isBlank {x : Char} (h : isBlank x = true) : isWord x = false := by
  have hword : blankCodes.all (fun n => !isWord (Char.ofNat n)) = true := by
    -- a list of ranges is searched much faster than an array of them
    simp only [isWord, inRanges, ← Array.any_toList]
    decide +kernel
  simpa using forall_blank (fun x => !isWord x) hword h

theorem isBlank_foldChar {x : Char} (h : isBlank x = true) : isBlank (foldChar x) = true := by
  have hfold : blankCodes.all (fun n => isBlank (foldChar (Char.ofNat n))) = true := by
    simp only [foldChar, CaseRange.apply, ← Array.find?_toList]
    decide
  exact forall_blank (fun x => isBlank (foldChar x)) hfold h

/-- Whether what stands in front of a text and behind it is blank. -/
structure Blanks (front back : List Char) : Prop where
  front : ∀ x ∈ front, isBlank x = true
  back : ∀ x ∈ back, isBlank x = true

/-- Trimming takes away nothing but blanks. -/
theorem exists_eq_trimChars (t : List Char) :
    ∃ front back, t = front ++ trimChars t ++ back ∧ Blanks front back := by
  refine ⟨t.takeWhile isBlank, ((trimFront t).reverse.takeWhile isBlank).reverse, ?_,
    fun x => List.mem_takeWhile_imp, fun x hx => ?_⟩
  · rw [List.append_assoc, trimChars, trimBack, ← List.reverse_append, List.takeWhile_append_dropWhile,
      List.reverse_reverse, trimFront, List.takeWhile_append_dropWhile]
  · exact List.mem_takeWhile_imp (List.mem_reverse.mp hx)

/-- Whether a text starts and ends with a character that is no blank. -/
structure Firm (w : List Char) : Prop where
  ne_nil : w ≠ []
  head : ∀ x ∈ w.head?, isBlank x = false
  last : ∀ x ∈ w.getLast?, isBlank x = false

variable {front v back before w after : List Char}

/-- Blanks in front do not reach into a text that starts with none. -/
theorem exists_append_of_head (h : front ++ v = before ++ w) (hfront : ∀ x ∈ front, isBlank x = true)
    (hhead : ∀ x ∈ w.head?, isBlank x = false) :
    ∃ rest, before = front ++ rest ∧ v = rest ++ w := by
  obtain ⟨rest, hbefore, hv⟩ | ⟨extra, hextra, hw⟩ := List.append_eq_append_iff.mp h
  · exact ⟨rest, hbefore, hv⟩
  · cases extra with
    | nil => exact ⟨[], by simpa using hextra.symm, by simpa using hw.symm⟩
    | cons x extra =>
      have hblank := hfront x (by simp [hextra])
      rw [hhead x (by simp [hw])] at hblank
      cases hblank

/-- Blanks behind do not reach into a text that ends with none. -/
theorem exists_append_of_last (h : v ++ back = w ++ after) (hback : ∀ x ∈ back, isBlank x = true)
    (hlast : ∀ x ∈ w.getLast?, isBlank x = false) :
    ∃ rest, after = rest ++ back ∧ v = w ++ rest := by
  have hreverse : back.reverse ++ v.reverse = after.reverse ++ w.reverse := by
    simpa using congrArg List.reverse h
  obtain ⟨rest, hafter, hv⟩ := exists_append_of_head hreverse (by simpa using hback)
    (by simpa using hlast)
  exact ⟨rest.reverse, by simpa using congrArg List.reverse hafter,
    by simpa using congrArg List.reverse hv⟩

/-- A text that is neither started nor ended by a blank lies between the blanks on either side. -/
theorem Firm.exists_between (hw : Firm w) (h : front ++ v ++ back = before ++ w ++ after)
    (hblanks : Blanks front back) :
    ∃ a b, before = front ++ a ∧ after = b ++ back ∧ v = a ++ w ++ b := by
  rw [List.append_assoc, List.append_assoc] at h
  obtain ⟨a, hbefore, hrest⟩ := exists_append_of_head h hblanks.front
    (by simpa [List.head?_append_of_ne_nil _ hw.ne_nil] using hw.head)
  rw [← List.append_assoc] at hrest
  obtain ⟨b, hafter, hv⟩ := exists_append_of_last hrest hblanks.back
    (by simpa [List.getLast?_append_of_ne_nil _ hw.ne_nil] using hw.last)
  exact ⟨a, b, hbefore, hafter, hv⟩

end Text

/-! ### Patterns whose matches start and end with no blank -/

/-- Whether a set can be seen to hold no blank. -/
def CharSet.isFirm : CharSet → Bool
  | word => true
  | union a b => a.isFirm && b.isFirm
  | ignoringCase (one c) => !Text.isBlank (Text.foldChar c)
  | s => Text.blankCodes.all fun n => !s.has (Char.ofNat n)

theorem CharSet.isBlank_of_has {s : CharSet} {x : Char} (hs : s.isFirm = true)
    (hx : s.has x = true) : Text.isBlank x = false := by
  refine Bool.eq_false_iff.mpr fun hblank => ?_
  fun_induction isFirm s with
  | case1 =>
    rw [CharSet.has, Text.isWord_of_isBlank hblank] at hx
    cases hx
  | case2 a b iha ihb =>
    obtain ⟨ha, hb⟩ := Bool.and_eq_true_iff.mp hs
    exact (Bool.or_eq_true_iff.mp hx).elim (iha ha) (ihb hb)
  | case3 c =>
    have hfold := Text.isBlank_foldChar hblank
    rw [beq_iff_eq.mp (show (Text.foldChar x == Text.foldChar c) = true from hx)] at hfold
    simp [hfold] at hs
  | case4 s =>
    have hno := Text.forall_blank (fun x => !s.has x) hs hblank
    simp [hx] at hno

namespace Pattern

/-- Whether a pattern may match nothing. -/
def isNullable : Pattern → Bool
  | empty | place _ | many _ | star _ => true
  | char _ => false
  | seq a b => a.isNullable && b.isNullable
  | alt a b => a.isNullable || b.isNullable

/-- Whether no text that a pattern spells starts with a blank. -/
def startsFirm : Pattern → Bool
  | empty | place _ => true
  | char s | many s => s.isFirm
  | seq a b => a.startsFirm && (!a.isNullable || b.startsFirm)
  | alt a b => a.startsFirm && b.startsFirm
  | star a => a.startsFirm

/-- The pattern that spells the same texts backwards. -/
def mirror : Pattern → Pattern
  | seq a b => seq b.mirror a.mirror
  | alt a b => alt a.mirror b.mirror
  | star a => star a.mirror
  | p => p

/-- Whether the texts that a pattern spells neither start nor end with a blank. -/
def isFirm (p : Pattern) : Bool := !p.isNullable && p.startsFirm && p.mirror.startsFirm

variable {a p : Pattern} {v w : List Char}

theorem Spells.isNullable (h : p.Spells w) (hw : w = []) : p.isNullable = true := by
  induction h with
  | empty | place | many | done | again => rfl
  | char => cases hw
  | seq _ _ iha ihb =>
    obtain ⟨hv, hw⟩ := List.append_eq_nil_iff.mp hw
    rw [Pattern.isNullable, iha hv, ihb hw, Bool.and_self]
  | left _ ih => rw [Pattern.isNullable, ih hw, Bool.true_or]
  | right _ ih => rw [Pattern.isNullable, ih hw, Bool.or_true]

theorem Spells.head_not_blank (h : p.Spells w) (hp : p.startsFirm = true) :
    ∀ x ∈ w.head?, Text.isBlank x = false := by
  induction h with
  | empty | place | done => nofun
  | char hx =>
    rintro x ⟨⟩
    exact CharSet.isBlank_of_has hp hx
  | @seq _ _ v _ ha _ iha ihb =>
    obtain ⟨hfirst, hrest⟩ := Bool.and_eq_true_iff.mp hp
    cases v with
    | nil => exact ihb (by simpa [ha.isNullable rfl] using hrest)
    | cons x v => exact iha hfirst
  | left _ ih => exact ih (Bool.and_eq_true_iff.mp hp).1
  | right _ ih => exact ih (Bool.and_eq_true_iff.mp hp).2
  | many hall => exact fun x hx => CharSet.isBlank_of_has hp (hall x (List.mem_of_head? hx))
  | @again _ v _ _ _ iha ih =>
    cases v with
    | nil => exact ih hp
    | cons x v => exact iha hp

theorem Spells.star_append (h : (star a).Spells w) (ha : a.Spells v) : (star a).Spells (w ++ v) := by
  generalize hp : star a = p at h
  induction h with
  | done =>
    cases hp
    simpa using Spells.again ha (.done a)
  | again hfirst _ _ ih =>
    cases hp
    rw [List.append_assoc]
    exact .again hfirst (ih rfl)
  | _ => cases hp

theorem Spells.reverse (h : p.Spells w) : p.mirror.Spells w.reverse := by
  induction h with
  | empty => exact .empty
  | char hx => exact .char hx
  | place q => exact .place q
  | seq _ _ iha ihb =>
    rw [List.reverse_append]
    exact .seq ihb iha
  | left _ ih => exact .left ih
  | right _ ih => exact .right ih
  | many hall => exact .many fun x hx => hall x (List.mem_reverse.mp hx)
  | done a => exact .done a.mirror
  | again _ _ iha ih =>
    rw [List.reverse_append]
    exact ih.star_append iha

theorem Spells.firm (h : p.Spells w) (hp : p.isFirm = true) : Text.Firm w := by
  simp only [isFirm, Bool.and_eq_true, Bool.not_eq_true'] at hp
  obtain ⟨⟨hnull, hstart⟩, hend⟩ := hp
  refine ⟨fun hnil => ?_, h.head_not_blank hstart, fun x hx => ?_⟩
  · rw [h.isNullable hnil] at hnull
    cases hnull
  · exact h.reverse.head_not_blank hend x (by simpa using hx)

/-- A match takes a text that the pattern spells. -/
theorem Leads.spells {c d : Cursor} (h : p.Leads c d) : ∃ w, p.Spells w ∧ c.Takes w d := by
  induction p generalizing c d with
  | empty => exact ⟨[], .empty, h ▸ .refl c⟩
  | char s =>
    obtain ⟨x, hx, htakes⟩ := Cursor.takes_of_step? h
    exact ⟨[x], .char hx, htakes⟩
  | place q => exact ⟨[], .place q, h.1 ▸ .refl c⟩
  | seq a b iha ihb =>
    obtain ⟨e, ha, hb⟩ := h
    obtain ⟨v, hv, hce⟩ := iha ha
    obtain ⟨w, hw, hed⟩ := ihb hb
    exact ⟨v ++ w, .seq hv hw, hce.trans hed⟩
  | alt a b iha ihb =>
    obtain h | h := h
    · obtain ⟨w, hw, htakes⟩ := iha h
      exact ⟨w, .left hw, htakes⟩
    · obtain ⟨w, hw, htakes⟩ := ihb h
      exact ⟨w, .right hw, htakes⟩
  | many s =>
    induction h with
    | refl => exact ⟨[], .many nofun, .refl c⟩
    | tail _ hnext ih =>
      obtain ⟨w, hw, htakes⟩ := ih
      obtain ⟨x, hx, hlast⟩ := Cursor.takes_of_step? hnext
      cases hw with
      | many hall =>
        refine ⟨w ++ [x], .many fun y hy => ?_, htakes.trans hlast⟩
        rcases List.mem_append.mp hy with hy | hy
        · exact hall y hy
        · rwa [List.mem_singleton.mp hy]
  | star a ih =>
    induction h with
    | refl => exact ⟨[], .done a, .refl c⟩
    | tail _ hlast hmid =>
      obtain ⟨w, hw, htakes⟩ := hmid
      obtain ⟨v, hv, hend⟩ := ih hlast
      exact ⟨w ++ v, hw.star_append hv, htakes.trans hend⟩

/-- Sets of characters lead past members of each. -/
theorem exists_leads_chars {ss : List CharSet} {r : List Char} {c : Cursor}
    (hw : List.Forall₂ (fun x s => s.has x = true) w ss) (hc : c.rest = w ++ r) :
    ∃ d, (seqs (ss.map char)).Leads c d ∧ d.rest = r := by
  induction hw generalizing c with
  | nil => exact ⟨c, rfl, hc⟩
  | @cons x s w ss hx _ ih =>
    obtain ⟨d, hd, hrest⟩ := ih (c := ⟨c.index + 1, some x, w ++ r⟩) rfl
    exact ⟨d, leads_seqs_cons.mpr ⟨_, Cursor.next_iff.mpr ⟨x, w ++ r, hc, hx, rfl⟩, hd⟩, hrest⟩

theorem exists_leads_text {s : String} {r : List Char} {c : Cursor} (hc : c.rest = s.toList ++ r) :
    ∃ d, (text s).Leads c d ∧ d.rest = r := by
  rw [text_eq]
  refine exists_leads_chars (List.forall₂_map_right_iff.mpr (List.forall₂_same.mpr fun x _ => ?_)) hc
  exact beq_self_eq_true x

/-- A text is found where it stands. -/
theorem isIn_text_iff {s : String} {t : List Char} : (text s).isIn t = true ↔ s.toList <:+: t := by
  constructor
  · intro h
    obtain ⟨c, d, ⟨u, v, rfl, rfl⟩, hcd⟩ := isIn_iff.mp h
    obtain ⟨w, hw, htakes⟩ := hcd.spells
    rw [show v = w ++ d.rest from htakes.rest, eq_of_spells_text hw]
    exact ⟨u, d.rest, by simp⟩
  · rintro ⟨u, v, rfl⟩
    obtain ⟨d, hd, -⟩ :=
      exists_leads_text (s := s) (r := v) (c := ⟨u.length, u.getLast?, s.toList ++ v⟩) rfl
    exact isIn_iff.mpr ⟨_, d, ⟨u, s.toList ++ v, by simp, rfl⟩, hd⟩

end Pattern

/-! ### Matches that lie within a part of the text -/

namespace Place

/-- Whether a condition on a place of a text holds there if it does when the text stands in a wider
one. -/
def Returns (front t back : List Char) (p : Place) : Prop :=
  ∀ c, c.Of t → p.holds (c.within front back) = true → p.holds c = true

variable {front t back : List Char}

theorem returns_textStart : textStart.Returns front t back := by
  intro c _ hholds
  cases hbefore : c.before with
  | none => simp [holds, hbefore]
  | some x => simp [holds, Cursor.within, hbefore] at hholds

theorem returns_lineStart : (lineStart false).Returns front t back := by
  intro c _ hholds
  cases hbefore : c.before with
  | none => simp [holds, hbefore]
  | some x => simpa [holds, Cursor.within, hbefore] using hholds

/-- Blanks around a text make no edge of a word and take none away. -/
theorem returns_edge (hblanks : Text.Blanks front back) :
    (word .edge false).Returns front t back := by
  intro c _ hholds
  have hno {o : Option Char} (ho : ∀ x ∈ o, Text.isBlank x = true) : o.any Text.isWord = false := by
    cases o with
    | none => rfl
    | some x => exact Text.isWord_of_isBlank (ho x rfl)
  have hlast := hno fun x hx => hblanks.front x (List.mem_of_getLast? hx)
  have hfirst := hno fun x hx => hblanks.back x (List.mem_of_head? hx)
  have hbefore : (c.within front back).before.any Text.isWord = c.before.any Text.isWord := by
    cases hb : c.before with
    | none => simpa [Cursor.within, hb] using hlast
    | some x => simp [Cursor.within, hb]
  have hafter : (c.within front back).rest.head?.any Text.isWord = c.rest.head?.any Text.isWord := by
    cases hrest : c.rest with
    | nil => simpa [Cursor.within, hrest] using hfirst
    | cons x rest => simp [Cursor.within, hrest]
  simpa [holds, hbefore, hafter] using hholds

end Place

variable {front t back : List Char} {c d : Cursor}

/-- What steps lead to from a place of a part they lead to within the part, if every step stays
there. -/
theorem skips_of_within {R : Cursor → Cursor → Prop} (hle : ∀ {c d}, R c d → c.index ≤ d.index)
    (hof : ∀ {c d}, R c d → c.Of t → d.Of t)
    (hR : ∀ {c d}, c.Of t → R (c.within front back) d → d.index ≤ front.length + t.length →
      ∃ d', d = d'.within front back ∧ R c d')
    (hc : c.Of t) (h : ReflTransGen R (c.within front back) d)
    (hd : d.index ≤ front.length + t.length) :
    ∃ d', d = d'.within front back ∧ ReflTransGen R c d' ∧ d'.Of t := by
  induction h with
  | refl => exact ⟨c, rfl, .refl, hc⟩
  | tail _ hlast ih =>
    obtain ⟨e, rfl, hce, he⟩ := ih (Nat.le_trans (hle hlast) hd)
    obtain ⟨d', rfl, hed⟩ := hR he hlast hd
    exact ⟨d', rfl, hce.tail hed, hof hed he⟩

theorem Cursor.Next.of_within {s : CharSet} (hc : c.Of t) (h : (c.within front back).Next s d)
    (hd : d.index ≤ front.length + t.length) : ∃ d', d = d'.within front back ∧ c.Next s d' := by
  obtain ⟨x, rest, hrest, hx, rfl⟩ := Cursor.next_iff.mp h
  obtain ⟨u, v, rfl, rfl⟩ := hc
  cases v with
  | nil =>
    simp only [Cursor.within, List.append_nil] at hd
    omega
  | cons y v =>
    obtain ⟨rfl, rfl⟩ := List.cons_eq_cons.mp hrest
    exact ⟨⟨u.length + 1, some y, v⟩, by simp [Cursor.within, Nat.add_assoc],
      Cursor.next_iff.mpr ⟨y, v, rfl, hx, rfl⟩⟩

namespace Pattern

variable {p q : Pattern}

/-- A match that ends within a part of the text is a match of the part. -/
theorem Leads.of_within (hp : ∀ q ∈ p.places, q.Returns front t back) (hc : c.Of t)
    (h : p.Leads (c.within front back) d) (hd : d.index ≤ front.length + t.length) :
    ∃ d', d = d'.within front back ∧ p.Leads c d' := by
  induction p generalizing c d with
  | empty => exact ⟨c, h.symm, rfl⟩
  | char s => exact Cursor.Next.of_within hc h hd
  | place q =>
    obtain ⟨rfl, hholds⟩ := h
    exact ⟨c, rfl, rfl, hp q (by simp [places]) c hc hholds⟩
  | seq a b iha ihb =>
    obtain ⟨e, ha, hb⟩ := h
    obtain ⟨e', rfl, ha'⟩ :=
      iha (fun q hq => hp q (List.mem_append_left _ hq)) hc ha (Nat.le_trans hb.index_le hd)
    obtain ⟨d', rfl, hb'⟩ :=
      ihb (fun q hq => hp q (List.mem_append_right _ hq)) (ha'.of hc) hb hd
    exact ⟨d', rfl, e', ha', hb'⟩
  | alt a b iha ihb =>
    obtain h | h := h
    · obtain ⟨d', rfl, h'⟩ := iha (fun q hq => hp q (List.mem_append_left _ hq)) hc h hd
      exact ⟨d', rfl, .inl h'⟩
    · obtain ⟨d', rfl, h'⟩ := ihb (fun q hq => hp q (List.mem_append_right _ hq)) hc h hd
      exact ⟨d', rfl, .inr h'⟩
  | many s =>
    obtain ⟨d', rfl, h', -⟩ := skips_of_within (fun h => Nat.le_of_lt (by rw [h.index]; omega))
      Cursor.Next.of Cursor.Next.of_within hc h hd
    exact ⟨d', rfl, h'⟩
  | star a ih =>
    obtain ⟨d', rfl, h', -⟩ := skips_of_within Leads.index_le Leads.of (ih hp) hc h hd
    exact ⟨d', rfl, h'⟩

end Pattern

/-! ### Matches in a trimmed text -/

/-- A place of a wider text that does not lie outside a part of it is a place of the part. -/
theorem Cursor.Of.of_within (hc : c.Of (front ++ t ++ back)) (hfront : front.length ≤ c.index)
    (hback : c.index ≤ front.length + t.length) : ∃ c' : Cursor, c = c'.within front back ∧ c'.Of t := by
  have hpart : (⟨(t.take (c.index - front.length)).length, (t.take (c.index - front.length)).getLast?,
      t.drop (c.index - front.length)⟩ : Cursor).Of t := ⟨_, _, (List.take_append_drop _ t).symm, rfl⟩
  refine ⟨_, hc.eq_of_index hpart.within ?_, hpart⟩
  simp only [Cursor.within, List.length_take]
  omega

/-- A text that is neither started nor ended by a blank is taken between the blanks. -/
theorem Cursor.Takes.of_firm {w : List Char} (h : c.Takes w d) (hw : Text.Firm w)
    (hc : c.Of (front ++ t ++ back)) (hblanks : Text.Blanks front back) :
    (∃ c' : Cursor, c = c'.within front back ∧ c'.Of t) ∧ d.index ≤ front.length + t.length := by
  obtain ⟨u, v, htext, hplace⟩ := id hc
  have hrest : v = w ++ d.rest := by rw [← h.rest, hplace]
  rw [hrest, ← List.append_assoc] at htext
  obtain ⟨a, b, rfl, -, rfl⟩ := hw.exists_between htext hblanks
  have hindex : c.index = front.length + a.length := by rw [hplace, List.length_append]
  have hd := h.index
  refine ⟨hc.of_within (by omega) ?_, ?_⟩ <;> simp only [List.length_append] <;> omega

/-- Whether trimming a text cannot spoil a condition on its places. -/
def Place.outlastsTrimming : Place → Bool
  | textStart | lineStart false | word .edge false => true
  | _ => false

theorem Place.returns_of_outlasts {q : Place} (hq : q.outlastsTrimming = true)
    (hblanks : Text.Blanks front back) : q.Returns front t back := by
  unfold outlastsTrimming at hq
  split at hq
  · exact returns_textStart
  · exact returns_lineStart
  · exact returns_edge hblanks
  · cases hq

namespace Pattern

variable {p q : Pattern}

/-- Whether trimming a text cannot spoil a match. -/
def outlastsTrimming (p : Pattern) : Bool := p.isFirm && p.places.all Place.outlastsTrimming

theorem returns_of_outlasts (hp : p.outlastsTrimming = true) (hblanks : Text.Blanks front back) :
    ∀ q ∈ p.places, q.Returns front t back := fun q hq =>
  Place.returns_of_outlasts (List.all_eq_true.mp (Bool.and_eq_true_iff.mp hp).2 q hq) hblanks

/-- A match of such a pattern lies between the blanks. -/
theorem Leads.between_blanks (h : p.Leads c d) (hp : p.outlastsTrimming = true)
    (hc : c.Of (front ++ t ++ back)) (hblanks : Text.Blanks front back) :
    (∃ c' : Cursor, c = c'.within front back ∧ c'.Of t) ∧ d.index ≤ front.length + t.length := by
  obtain ⟨w, hw, htakes⟩ := h.spells
  exact htakes.of_firm (hw.firm (Bool.and_eq_true_iff.mp hp).1) hc hblanks

/-- What is found between blanks is found without them. -/
theorem isIn_of_blanks (hp : p.outlastsTrimming = true) (hblanks : Text.Blanks front back)
    (h : p.isIn (front ++ t ++ back) = true) : p.isIn t = true := by
  obtain ⟨c, d, hc, hcd⟩ := isIn_iff.mp h
  obtain ⟨⟨c', rfl, hc'⟩, hd⟩ := hcd.between_blanks hp hc hblanks
  obtain ⟨d', -, hcd'⟩ := hcd.of_within (returns_of_outlasts hp hblanks) hc' hd
  exact isIn_iff.mpr ⟨c', d', hc', hcd'⟩

theorem isIn_trimChars (hp : p.outlastsTrimming = true) (h : p.isIn t = true) :
    p.isIn (Text.trimChars t) = true := by
  obtain ⟨front, back, htext, hblanks⟩ := Text.exists_eq_trimChars t
  exact isIn_of_blanks hp hblanks (htext ▸ h)

/-- Blanks in front of a match on its line may be missing. -/
theorem isIn_trimChars_of_indented {s : CharSet} (hq : q.outlastsTrimming = true)
    (h : (seq (place (.lineStart false)) (seq (many s) q)).isIn t = true) :
    (seq (place (.lineStart false)) (seq (many s) q)).isIn (Text.trimChars t) = true := by
  obtain ⟨front, back, htext, hblanks⟩ := Text.exists_eq_trimChars t
  generalize Text.trimChars t = v at htext ⊢
  subst htext
  obtain ⟨c, d, hc, b, ⟨rfl, hstart⟩, e, hskips, hed⟩ := isIn_iff.mp h
  have he : e.Of (front ++ v ++ back) := Cursor.of_skips hskips hc
  obtain ⟨⟨e', rfl, he'⟩, hd⟩ := hed.between_blanks hq he hblanks
  have hle := Cursor.index_le_of_skips hskips
  have hin := he'.index_le
  -- the line starts in the trimmed text or in front of it, and then the trimmed text starts a line
  obtain ⟨b, hb, hbstart, hbskips⟩ : ∃ b, b.Of v ∧ (Place.lineStart false).holds b = true ∧
      ReflTransGen (Cursor.Next s) (b.within front back) (e'.within front back) := by
    by_cases hfront : front.length ≤ c.index
    · obtain ⟨c', rfl, hc'⟩ := hc.of_within hfront (by
        simp only [Cursor.within] at hle
        omega)
      exact ⟨c', hc', Place.returns_lineStart c' hc' hstart, hskips⟩
    · have hof := Cursor.of_start v
      refine ⟨.start v, hof, rfl, Cursor.skips_of_between hskips hc hof.within ?_ ?_⟩
      · simp only [Cursor.within, Cursor.start]
        omega
      · simp only [Cursor.within, Cursor.start]
        omega
  have hreturns : ∀ p ∈ (seq (many s) q).places, p.Returns front v back := by
    simpa [places] using returns_of_outlasts hq hblanks
  obtain ⟨d', -, hbd⟩ := Leads.of_within hreturns hb ⟨_, hbskips, hed⟩ hd
  exact isIn_iff.mpr ⟨b, d', hb, b, ⟨rfl, hbstart⟩, hbd⟩

end Pattern

end SuiteBench
