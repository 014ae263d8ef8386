import Mathlib.Algebra.Order.BigOperators.Group.List
import SuiteBench.Log.Cascade
import SuiteBench.Proofs.Pattern.Counting
import SuiteBench.Proofs.Text.Parts

/-!
# Proofs.Log.Counts — the diagnostic lines of a log, however it is cut

The counts of a log are sums over its lines.  A carriage return in front of a line feed changes nothing, no
mention reaches over a line feed and none begins within another, so the counts of two logs one after the
other are the sums of theirs, and a mention is counted wherever one begins.
-/

namespace SuiteBench.Log

open Pattern

variable {p : Pattern} {c d : Cursor} {w : List Char} {x : Char}

/-! ### Mentions -/

theorem not_packageChar_of_isBlank (hx : Text.isBlank x = true) : packageChar.has x = false :=
  Bool.eq_false_iff.mpr fun hhas =>
    Bool.noConfusion (hx.symm.trans (CharSet.isBlank_of_has (s := packageChar) (by decide) hhas))

/-- What mentions a missing package holds its name between two fixed texts. -/
theorem exists_of_spells_missingPackage (h : missingPackage.Spells w) : ∃ name,
    (∀ x ∈ name, packageChar.has x = true) ∧
      w = "package ".toList ++ (name ++ " does not exist".toList) := by
  cases h with
  | seq hfront hrest =>
    obtain rfl := eq_of_spells_text hfront
    cases hrest with
    | @seq _ _ name _ hname hend =>
      obtain rfl := eq_of_spells_text hend
      refine ⟨name, fun x hx => ?_, rfl⟩
      cases hname with
      | seq hone hmore =>
        cases hone with
        | char hone =>
          cases hmore with
          | many hmore => exact (List.mem_cons.mp hx).elim (fun heq => heq ▸ hone) (hmore x)

/-- The mentions that are counted. -/
def mentions : List Pattern := [missingPackage, missingSymbol]

theorem places_of_mem_mentions (hp : p ∈ mentions) : p.places = [] := by
  revert p
  decide

/-- No mention takes an end of a line. -/
theorem notMem_of_spells (hp : p ∈ mentions) (hx : x = '\n' ∨ x = '\r') (h : p.Spells w) :
    x ∉ w := by
  have hfixed : x ∉ "package ".toList ∧ x ∉ " does not exist".toList ∧
      x ∉ "cannot find symbol".toList := by
    obtain rfl | rfl := hx <;> decide
  obtain ⟨hfront, hend, hsymbol⟩ := hfixed
  simp only [mentions, List.mem_cons, List.not_mem_nil, or_false] at hp
  obtain rfl | rfl := hp
  · obtain ⟨name, hname, rfl⟩ := exists_of_spells_missingPackage h
    have hblank : Text.isBlank x = true := by obtain rfl | rfl := hx <;> decide
    have hno : x ∉ name := fun hmem =>
      Bool.noConfusion ((hname x hmem).symm.trans (not_packageChar_of_isBlank hblank))
    simp only [List.mem_append, not_or]
    exact ⟨hfront, hno, hend⟩
  · rwa [eq_of_spells_text h]

/-- A text whose first character does not come again does not begin within itself. -/
theorem apart_text {s : String} {y : Char} {ys : List Char} (hs : s.toList = y :: ys) (hy : y ∉ ys)
    (t : List Char) : (text s).Apart t where
  ahead hc h := by
    obtain ⟨w, hw, htakes⟩ := h.spells
    have hindex := htakes.index
    rw [eq_of_spells_text hw, hs, List.length_cons] at hindex
    omega
  apart {c d e f} hc he hcd hef hlt := by
    by_contra hwithin
    obtain ⟨w, hw, htakes⟩ := hcd.spells
    obtain ⟨w', hw', htakes'⟩ := hef.spells
    rw [eq_of_spells_text hw, hs] at htakes
    rw [eq_of_spells_text hw', hs] at htakes'
    obtain ⟨v, v', hsplit, hce, hed⟩ := htakes.exists_split hc he hlt.le (by omega)
    have hv := hce.index
    have hv' := hed.index
    have hrest : v' ++ d.rest = y :: ys ++ f.rest := hed.rest.symm.trans htakes'.rest
    cases v with
    | nil =>
      rw [List.length_nil] at hv
      omega
    | cons z v =>
      cases v' with
      | nil =>
        rw [List.length_nil] at hv'
        omega
      | cons z' v' =>
        obtain ⟨-, rfl⟩ := List.cons.inj hsplit
        obtain ⟨rfl, -⟩ := List.cons.inj hrest
        exact hy (List.mem_append_right _ List.mem_cons_self)

/-- An end of a text that begins with a character which the front lacks is an end of what follows. -/
theorem suffix_of_head {u v r : List Char} (h : v <:+ u ++ r) (hv : v.head? = some x) (hx : x ∉ u) :
    v <:+ r := by
  obtain ⟨front, hfront⟩ := h
  rcases List.append_eq_append_iff.mp hfront with ⟨e, rfl, rfl⟩ | ⟨e, -, hr⟩
  · cases e with
    | nil => exact List.suffix_rfl
    | cons y e =>
      obtain rfl : y = x := by simpa using hv
      exact absurd (List.mem_append_right _ List.mem_cons_self) hx
  · exact ⟨e, hr.symm⟩

/-- No mention of a package begins within another: it would have to begin in the name, whose end is then
the word in front of a name, and the name behind it would be the word that follows the name. -/
theorem apart_missingPackage (t : List Char) : missingPackage.Apart t where
  ahead hc h := by
    obtain ⟨w, hw, htakes⟩ := h.spells
    obtain ⟨name, -, rfl⟩ := exists_of_spells_missingPackage hw
    have hindex := htakes.index
    simp only [List.length_append, String.length_toList] at hindex
    have hfront : 0 < "package ".length := by decide
    omega
  apart {c d e f} hc he hcd hef hlt := by
    by_contra hwithin
    obtain ⟨w, hw, htakes⟩ := hcd.spells
    obtain ⟨w', hw', htakes'⟩ := hef.spells
    obtain ⟨name, hname, rfl⟩ := exists_of_spells_missingPackage hw
    obtain ⟨name', hname', rfl⟩ := exists_of_spells_missingPackage hw'
    have hblank {n : List Char} (hn : ∀ x ∈ n, packageChar.has x = true) : ' ' ∉ n := fun hmem =>
      Bool.noConfusion ((hn ' ' hmem).symm.trans (not_packageChar_of_isBlank (by decide)))
    obtain ⟨v, v', hsplit, hce, hed⟩ := htakes.exists_split hc he hlt.le (by omega)
    have hv := hce.index
    have hv' := hed.index
    have hrest := hed.rest.symm.trans htakes'.rest
    obtain ⟨y, v, rfl⟩ : ∃ y u, v = y :: u := List.exists_cons_of_ne_nil fun hnil => by
      rw [hnil, List.length_nil] at hv
      omega
    have hhead : v'.head? = some 'p' := by
      cases v' with
      | nil =>
        rw [List.length_nil] at hv'
        omega
      | cons z v' => exact congrArg List.head? (congrArg (List.take 1) hrest)
    have hsuffix : v' <:+ "ackage ".toList ++ (name ++ " does not exist".toList) :=
      ⟨v, (List.cons.inj hsplit).2.symm⟩
    obtain ⟨front, hfront⟩ := suffix_of_head hsuffix hhead (by decide)
    rcases List.append_eq_append_iff.mp hfront with ⟨z, rfl, rfl⟩ | ⟨z, -, hend⟩
    · -- the mention begins in the name, of which it takes the word in front of its own name
      have hz : ' ' ∉ z := fun hmem => hblank hname (List.mem_append_right _ hmem)
      obtain ⟨rfl, hbehind⟩ := Text.append_cons_inj (v := "package".toList) hz (by decide)
        ((List.append_assoc _ _ _).symm.trans hrest)
      obtain ⟨-, hlast⟩ := Text.append_cons_inj (u := "does".toList) (v := name') (by decide)
        (hblank hname') (hbehind.trans (List.append_assoc name' " does not exist".toList f.rest))
      cases hlast
    · have hp : 'p' ∈ " does not exist".toList :=
        hend ▸ List.mem_append_right _ (List.mem_of_head? hhead)
      exact absurd hp (by decide)

theorem apart_of_mem_mentions (hp : p ∈ mentions) (t : List Char) : p.Apart t := by
  simp only [mentions, List.mem_cons, List.not_mem_nil, or_false] at hp
  obtain rfl | rfl := hp
  · exact apart_missingPackage t
  · exact apart_text (s := "cannot find symbol") (y := 'c') rfl (by decide) t

theorem count_append_lineEnd (hp : p ∈ mentions) (hx : x = '\n' ∨ x = '\r') (a b : List Char) :
    p.count (a ++ x :: b) = p.count a + p.count b :=
  count_append_cons (places_of_mem_mentions hp) (fun _ hw => notMem_of_spells hp hx hw)
    (apart_of_mem_mentions hp)

theorem count_append_return (hp : p ∈ mentions) (l : List Char) :
    p.count (l ++ ['\r']) = p.count l := by
  rw [count_append_lineEnd hp (.inr rfl), count_nil (apart_of_mem_mentions hp []), Nat.add_zero]

/-! ### Lines -/

/-- The number of error reports that a line counts for. -/
def reportsIn (line : List Char) : Nat := if errorLine.isIn line then 1 else 0

theorem reportsIn_nil : reportsIn [] = 0 := by decide +kernel

/-- A carriage return makes no report of a line and takes none away. -/
theorem reportsIn_append_return (l : List Char) : reportsIn (l ++ ['\r']) = reportsIn l := by
  have hlasts : errorLine.outlastsTrimming = true := by decide
  have hblanks : Text.Blanks [] ['\r'] := ⟨nofun, by simp [Text.isBlank]⟩
  have hreturn : errorLine.isIn ([] ++ l ++ ['\r']) = true ↔ errorLine.isIn l = true := by
    refine ⟨isIn_of_blanks hlasts hblanks, isIn_within fun q hq => ?_⟩
    have hq : q = .textStart ∨ q = .word .edge false := by
      revert q
      decide
    obtain rfl | rfl := hq
    · exact Place.carries_textStart
    · exact Place.carries_edge_of_notWord rfl (.inl (Text.isWord_of_isBlank (by decide)))
  rw [List.nil_append] at hreturn
  simp only [reportsIn, hreturn]

/-! ### Logs -/

theorem foldl_addCounts (xs : List ErrorCounts) (c : ErrorCounts) : xs.foldl addCounts c =
    ⟨c.total + (xs.map (·.total)).sum, c.missingPackages + (xs.map (·.missingPackages)).sum,
      c.missingSymbols + (xs.map (·.missingSymbols)).sum⟩ := by
  induction xs generalizing c with
  | nil => rfl
  | cons x xs ih => simp [ih, addCounts, Nat.add_assoc]

theorem countErrors_eq_lines (log : List Char) : countErrors log =
    ⟨((Text.linesOf log).map reportsIn).sum, ((Text.linesOf log).map missingPackage.count).sum,
      ((Text.linesOf log).map missingSymbol.count).sum⟩ := by
  rw [countErrors, foldl_addCounts]
  simp only [List.map_map, Nat.zero_add]
  rfl

theorem sum_count_linesOf (hp : p ∈ mentions) (log : List Char) :
    ((Text.linesOf log).map p.count).sum = p.count log := by
  rw [Text.sum_linesOf (count_nil (apart_of_mem_mentions hp [])) (count_append_return hp),
    Text.sum_splitOnP fun a b => count_append_lineEnd hp (.inl rfl) a b]

/-- The counts of a log: reports among the pieces between line feeds, and mentions in the whole text. -/
theorem countErrors_eq (log : List Char) : countErrors log =
    ⟨((Text.splitOnP (· == '\n') log).map reportsIn).sum, missingPackage.count log,
      missingSymbol.count log⟩ := by
  rw [countErrors_eq_lines, Text.sum_linesOf reportsIn_nil reportsIn_append_return,
    sum_count_linesOf (List.mem_cons_self ..), sum_count_linesOf (List.mem_cons_of_mem _ List.mem_cons_self)]

theorem countErrors_append_feed (a b : List Char) :
    countErrors (a ++ '\n' :: b) = addCounts (countErrors a) (countErrors b) := by
  have hcount {p : Pattern} (hp : p ∈ mentions) := count_append_lineEnd hp (.inl rfl) a b
  have hpieces : Text.splitOnP (· == '\n') (a ++ '\n' :: b) =
      Text.splitOnP (· == '\n') a ++ Text.splitOnP (· == '\n') b :=
    Text.splitOnP_append_sep a b (beq_self_eq_true '\n')
  rw [countErrors_eq, countErrors_eq, countErrors_eq, addCounts, hpieces, List.map_append,
    List.sum_append, hcount (List.mem_cons_self ..),
    hcount (List.mem_cons_of_mem _ List.mem_cons_self)]

theorem total_le_lines (log : List Char) : (countErrors log).total ≤ (Text.linesOf log).length := by
  have hone : ∀ n ∈ (Text.linesOf log).map reportsIn, n ≤ 1 := by
    intro n hn
    obtain ⟨line, -, rfl⟩ := List.mem_map.mp hn
    rw [reportsIn]
    split <;> decide
  rw [countErrors_eq_lines]
  simpa using List.sum_le_card_nsmul _ 1 hone

/-- The counts of two logs with a line feed between them are the sums of theirs, no more lines report an
error than there are, and the mentions counted line by line are those that follow one another without
overlap in the whole text, one for each of its places where a mention begins. -/
theorem countErrors_additive :
    (∀ a b : String, countErrors (a ++ "\n" ++ b).toList =
      addCounts (countErrors a.toList) (countErrors b.toList)) ∧
    (∀ log : String, (countErrors log.toList).total ≤ (Text.lines log).length) ∧
    ∀ log : String,
      ((countErrors log.toList).missingPackages = missingPackage.count log.toList ∧
        missingPackage.count log.toList = (missingPackage.starts log.toList).ncard) ∧
      ((countErrors log.toList).missingSymbols = missingSymbol.count log.toList ∧
        missingSymbol.count log.toList = (missingSymbol.starts log.toList).ncard) := by
  have hpackage : missingPackage ∈ mentions := List.mem_cons_self
  have hsymbol : missingSymbol ∈ mentions := List.mem_cons_of_mem _ List.mem_cons_self
  refine ⟨fun a b => ?_, fun log => ?_, fun log => ⟨⟨?_, ?_⟩, ?_, ?_⟩⟩
  · rw [String.toList_append, String.toList_append, List.append_assoc]
    exact countErrors_append_feed a.toList b.toList
  · rw [Text.lines, List.length_map]
    exact total_le_lines log.toList
  · rw [countErrors_eq]
  · exact count_eq_ncard_starts (apart_of_mem_mentions hpackage _)
  · rw [countErrors_eq]
  · exact count_eq_ncard_starts (apart_of_mem_mentions hsymbol _)

end SuiteBench.Log
