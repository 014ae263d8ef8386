import SuiteBench.Proofs.Pattern.Matching

/-!
# Proofs.Pattern.Surroundings — matches within a wider text

What a pattern takes is not changed by text in front of it and behind it; only the places that it
asks for are.  So a match is kept in a wider text as long as the conditions on places carry over, and
without such conditions nothing but the text that is still to come matters.
-/

namespace SuiteBench

open Relation (ReflTransGen)

variable {front t back : List Char} {c d : Cursor}

namespace Cursor

/-- The same place when the text stands in a wider one. -/
def within (front back : List Char) (c : Cursor) : Cursor :=
  ⟨front.length + c.index, c.before.or front.getLast?, c.rest ++ back⟩

theorem Of.within (h : c.Of t) : (c.within front back).Of (front ++ t ++ back) := by
  obtain ⟨u, v, rfl, rfl⟩ := h
  exact ⟨front ++ u, v ++ back, by simp, by simp [Cursor.within, List.getLast?_append]⟩

theorem Next.within {s : CharSet} (h : c.Next s d) :
    (c.within front back).Next s (d.within front back) := by
  obtain ⟨x, rest, hrest, hx, rfl⟩ := next_iff.mp h
  exact next_iff.mpr ⟨x, rest ++ back, by simp [Cursor.within, hrest], hx,
    by simp [Cursor.within, Nat.add_assoc]⟩

end Cursor

/-! ### Conditions that carry over -/

/-- Whether a text stands in a wider one as whole lines: nothing or a line feed is in front of it, and
nothing or a line feed is behind it unless its own last line is ended. -/
structure WholeLines (front t back : List Char) : Prop where
  front : ∀ x ∈ front.getLast?, x = '\n'
  back : (∀ x ∈ back.head?, x = '\n') ∨ ∀ x ∈ t.getLast?, x = '\n'

/-- Lines that are put around a text with a line feed on either side. -/
theorem wholeLines_between (before t after : List Char) :
    WholeLines (before ++ ['\n']) t ('\n' :: after) :=
  ⟨by simp, .inl (by simp)⟩

namespace Place

/-- Whether a condition on a place of a text still holds when the text stands in a wider one. -/
def Carries (front t back : List Char) (p : Place) : Prop :=
  ∀ c, c.Of t → p.holds c = true → p.holds (c.within front back) = true

theorem carries_textStart : textStart.Carries [] t back := by
  intro c _ hholds
  simpa [holds, Cursor.within] using hholds

theorem carries_lineStart (h : WholeLines front t back) :
    (lineStart false).Carries front t back := by
  intro c _ hholds
  have hfront := h.front
  cases hbefore : c.before with
  | none =>
    cases hlast : front.getLast? with
    | none => simp [holds, Cursor.within, hbefore, hlast]
    | some x => simp [holds, Cursor.within, hbefore, hlast, hfront x hlast]
  | some x => simpa [holds, Cursor.within, hbefore] using hholds

/-- A word that ends where the text ends does so in a wider one in which no word goes on there. -/
theorem carries_edge_of_notWord (hfront : front.getLast?.any Text.isWord = false)
    (hback : back.head?.any Text.isWord = false ∨ t.getLast?.any Text.isWord = false) :
    (word .edge false).Carries front t back := by
  intro c hc hholds
  have hedge (c : Cursor) : (word .edge false).holds c =
      (c.before.any Text.isWord != c.rest.head?.any Text.isWord) := rfl
  have hbefore : (c.within front back).before.any Text.isWord = c.before.any Text.isWord := by
    cases hb : c.before with
    | none => simpa [Cursor.within, hb] using hfront
    | some x => simp [Cursor.within, hb]
  rw [hedge] at hholds
  rw [hedge, hbefore]
  cases hrest : c.rest with
  | cons x rest => simpa [Cursor.within, hrest] using hholds
  | nil =>
    -- at the end of the text an edge has a word in front of it
    have hword : c.before.any Text.isWord = true := by simpa [hrest] using hholds
    have hlast : c.before = t.getLast? := by
      obtain ⟨u, v, rfl, rfl⟩ := hc
      obtain rfl : v = [] := hrest
      rw [List.append_nil]
    have hback : back.head?.any Text.isWord = false := by
      refine hback.resolve_right fun hended => ?_
      rw [hlast, hended] at hword
      cases hword
    rw [hword]
    simpa [Cursor.within, hrest] using hback

/-- A line feed belongs to no word. -/
theorem carries_edge (h : WholeLines front t back) : (word .edge false).Carries front t back := by
  have hfeed : Text.isWord '\n' = false := by decide
  have hno {o : Option Char} (ho : ∀ x ∈ o, x = '\n') : o.any Text.isWord = false := by
    cases o with
    | none => rfl
    | some x => rw [Option.any_some, ho x rfl, hfeed]
  exact carries_edge_of_notWord (hno h.front) (h.back.imp hno hno)

end Place

namespace Pattern

/-- The conditions on places in a pattern. -/
def places : Pattern → List Place
  | place p => [p]
  | seq a b | alt a b => a.places ++ b.places
  | star a => a.places
  | empty | char _ | many _ => []

variable {p : Pattern}

theorem Leads.within (hp : ∀ q ∈ p.places, q.Carries front t back) (hc : c.Of t) (h : p.Leads c d) :
    p.Leads (c.within front back) (d.within front back) := by
  induction p generalizing c d with
  | empty => exact congrArg (Cursor.within front back) h
  | char s => exact Cursor.Next.within h
  | place q =>
    obtain ⟨rfl, hholds⟩ := h
    exact ⟨rfl, hp q (by simp [places]) c hc hholds⟩
  | seq a b iha ihb =>
    obtain ⟨e, ha, hb⟩ := h
    refine ⟨e.within front back, iha (fun q hq => hp q ?_) hc ha,
      ihb (fun q hq => hp q ?_) (ha.of hc) hb⟩
    · exact List.mem_append_left _ hq
    · exact List.mem_append_right _ hq
  | alt a b iha ihb =>
    refine h.imp (iha (fun q hq => hp q ?_) hc) (ihb (fun q hq => hp q ?_) hc)
    · exact List.mem_append_left _ hq
    · exact List.mem_append_right _ hq
  | many s =>
    exact ReflTransGen.lift (Cursor.within front back) (fun _ _ => Cursor.Next.within) _ _ h
  | star a ih =>
    refine And.right (a := d.Of t) ?_
    induction h with
    | refl => exact ⟨hc, .refl⟩
    | tail _ hlast hmid => exact ⟨hlast.of hmid.1, hmid.2.tail (ih hp hmid.1 hlast)⟩

/-- A text that holds a match holds it in a wider text, if what the pattern asks of places carries
over. -/
theorem isIn_within (hp : ∀ q ∈ p.places, q.Carries front t back) (h : p.isIn t = true) :
    p.isIn (front ++ t ++ back) = true := by
  obtain ⟨c, d, hc, hcd⟩ := isIn_iff.mp h
  exact isIn_iff.mpr ⟨_, _, hc.within, hcd.within hp hc⟩

/-! ### Patterns that ask nothing of places -/

/-- Without conditions on places only the text that is still to come matters. -/
theorem Leads.of_rest (hp : p.places = []) (h : p.Leads c d) (c' : Cursor)
    (hrest : c'.rest = c.rest) : ∃ d', p.Leads c' d' ∧ d'.rest = d.rest := by
  induction p generalizing c c' d with
  | empty => exact ⟨c', rfl, h ▸ hrest⟩
  | char s =>
    obtain ⟨x, rest, hc, hx, rfl⟩ := Cursor.next_iff.mp h
    exact ⟨_, Cursor.next_iff.mpr ⟨x, rest, hrest.trans hc, hx, rfl⟩, rfl⟩
  | place q => cases hp
  | seq a b iha ihb =>
    obtain ⟨hpa, hpb⟩ := List.append_eq_nil_iff.mp hp
    obtain ⟨e, ha, hb⟩ := h
    obtain ⟨e', ha', he⟩ := iha hpa ha c' hrest
    obtain ⟨d', hb', hd⟩ := ihb hpb hb e' he
    exact ⟨d', ⟨e', ha', hb'⟩, hd⟩
  | alt a b iha ihb =>
    obtain ⟨hpa, hpb⟩ := List.append_eq_nil_iff.mp hp
    obtain h | h := h
    · obtain ⟨d', hd', hd⟩ := iha hpa h c' hrest
      exact ⟨d', .inl hd', hd⟩
    · obtain ⟨d', hd', hd⟩ := ihb hpb h c' hrest
      exact ⟨d', .inr hd', hd⟩
  | many s =>
    induction h with
    | refl => exact ⟨c', .refl, hrest⟩
    | tail _ hlast hmid =>
      obtain ⟨e', hskips, he⟩ := hmid
      obtain ⟨x, rest, hc, hx, rfl⟩ := Cursor.next_iff.mp hlast
      exact ⟨_, hskips.tail (Cursor.next_iff.mpr ⟨x, rest, he.trans hc, hx, rfl⟩), rfl⟩
  | star a ih =>
    induction h with
    | refl => exact ⟨c', .refl, hrest⟩
    | tail _ hlast hmid =>
      obtain ⟨e', hskips, he⟩ := hmid
      obtain ⟨d', hd', hd⟩ := ih hp hlast e' he
      exact ⟨d', hskips.tail hd', hd⟩

/-- What is found behind the first character is found without it. -/
theorem isIn_of_cons {x : Char} (hp : p.places = [])
    (hx : ∀ c d, c.rest.head? = some x → ¬ p.Leads c d) (h : p.isIn (x :: t) = true) :
    p.isIn t = true := by
  obtain ⟨c, d, ⟨u, v, htext, rfl⟩, hcd⟩ := isIn_iff.mp h
  cases u with
  | nil =>
    obtain rfl : x :: t = v := htext
    exact absurd hcd (hx _ d rfl)
  | cons y u =>
    obtain ⟨rfl, rfl⟩ := List.cons_eq_cons.mp htext
    obtain ⟨d', hd', -⟩ := hcd.of_rest hp ⟨u.length, u.getLast?, v⟩ rfl
    exact isIn_iff.mpr ⟨_, d', ⟨u, v, rfl, rfl⟩, hd'⟩

end Pattern

end SuiteBench
