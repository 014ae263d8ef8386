import Mathlib.Data.List.Pairwise
import SuiteBench.Proofs.Pattern.Searching
import SuiteBench.Proofs.Report.Checklist

/-!
# Proofs.Report.Sections — which part of a checklist answers a criterion

A checklist is searched for a prompt as a whole.  A criterion is answered where its prompt is mentioned
first: in the section whose heading has the prompt, unless something in front of that section mentions
it too.
-/

namespace SuiteBench

open Pattern
open Text (First foldChar first_append_of_not)

namespace Evaluation

/-! ### Prompts and options -/

/-- Whether a text begins with a prompt in any case. -/
def Opens (prompt : String) (t : List Char) : Prop :=
  ∃ w, w <+: t ∧ w.map foldChar = prompt.toList.map foldChar

/-- Whether a prompt occurs in a text in any case. -/
def Mentions (prompt : String) (t : List Char) : Prop :=
  ∃ w, w <:+: t ∧ w.map foldChar = prompt.toList.map foldChar

/-- Whether a text begins with a ticked box for an option. -/
def Ticks (option : String) (t : List Char) : Prop :=
  option ∈ options ∧ ∃ x blanks rest, (x = 'x' ∨ x = 'X') ∧
    (∀ c ∈ blanks, Text.isBlank c = true) ∧ rest.head?.any Text.isWord = false ∧
      t = '[' :: x :: ']' :: (blanks ++ (option.toList ++ rest))

/-- Whether a text begins with a ticked box for any of the options. -/
def BeginsTicked (t : List Char) : Prop := ∃ option, Ticks option t

/-- Whether an option is the first one that is ticked in a text. -/
def FirstTicked (option : String) (t : List Char) : Prop :=
  ∃ v, First BeginsTicked t v ∧ Ticks option v

/-- Whether an option is the first one that is ticked behind the first mention of a prompt. -/
def Answers (prompt option : String) (t : List Char) : Prop :=
  ∃ v, First (Opens prompt) t v ∧ FirstTicked option (v.drop prompt.length)

variable {prompt column a b : String} {t u v w ys : List Char} {c d : Cursor}

theorem mentions_iff : Mentions prompt t ↔ ∃ v, v <:+ t ∧ Opens prompt v := by
  simp only [Mentions, Opens, List.infix_iff_prefix_suffix]
  grind

theorem mentions_of_first (h : First (Opens prompt) t v) : Mentions prompt t :=
  mentions_iff.mpr ⟨v, h.suffix, h.holds⟩

theorem Answers.mentions (h : Answers prompt a t) : Mentions prompt t := by
  obtain ⟨v, hv, -⟩ := h
  exact mentions_of_first hv

theorem isIn_folded_iff : (folded prompt).isIn t = true ↔ Mentions prompt t := by
  rw [isIn_iff, mentions_iff]
  constructor
  · rintro ⟨c, d, hc, hcd⟩
    exact ⟨c.rest, hc.suffix, exists_leads_folded_iff.mp ⟨d, hcd⟩⟩
  · rintro ⟨v, hv, hopens⟩
    obtain ⟨c, hc, rfl⟩ := Cursor.exists_of_suffix hv
    obtain ⟨d, hcd⟩ := exists_leads_folded_iff.mpr hopens
    exact ⟨c, d, hc, hcd⟩

instance : Decidable (Mentions prompt t) := decidable_of_iff _ isIn_folded_iff

/-- One text does not begin with two ticked options. -/
theorem Ticks.unique (ha : Ticks a t) (hb : Ticks b t) : a = b := by
  have hprefix : ∀ {o}, Ticks o t → o ∈ options ∧ o.toList <+: (t.drop 3).dropWhile Text.isBlank := by
    rintro o ⟨ho, x, blanks, rest, -, hblanks, -, rfl⟩
    exact ⟨ho, rest, (dropWhile_box hblanks ho rest).symm⟩
  have hfree : ∀ o ∈ options, ∀ o' ∈ options, o.toList <+: o'.toList → o = o' := by decide
  obtain ⟨hma, hpa⟩ := hprefix ha
  obtain ⟨hmb, hpb⟩ := hprefix hb
  rcases List.prefix_or_prefix_of_prefix hpa hpb with h | h
  · exact hfree a hma b hmb h
  · exact (hfree b hmb a hma h).symm

/-! ### What the searches find -/

/-- Options end with a character of a word. -/
theorem edge_behind_option (ha : a ∈ options) (hc : c.Of t) (hd : d.Of t)
    (h : c.Takes (u ++ a.toList) d) :
    (Place.word .edge false).holds d = !d.rest.head?.any Text.isWord := by
  have hword : ∀ o ∈ options, o.toList.getLast?.any Text.isWord = true := by decide
  have hlast : d.before.any Text.isWord = true := by
    rw [h.before hc hd, List.getLast?_append]
    have hoption := hword a ha
    revert hoption
    cases a.toList.getLast? with
    | none => simp
    | some y => exact id
  rw [Place.holds, if_neg Bool.false_ne_true, Place.holdsBetween, hlast, Bool.true_bne]

/-- The pattern of a ticked option leads past a box and the option behind it. -/
theorem ticks_of_leads (hc : c.Of t) (h : tickedOption.Leads c d) : ∃ a, Ticks a c.rest ∧
    String.ofList (((between c d).drop 3).dropWhile Text.isBlank) = a := by
  obtain ⟨w, hw, htakes⟩ := h.spells
  obtain ⟨x, blanks, a, hx, hblanks, ha, rfl⟩ := spells_tickedOption hw
  have hedge : (Place.word .edge false).holds d = true := by
    have hparts : tickedOption = seqs ([text "[", char (.ofText "xX"), text "]", many .blank,
      anyOf [text "Yes", text "Partial", text "No", text "N/A"]] ++ [edge]) := rfl
    rw [hparts] at h
    obtain ⟨e, -, rfl, hedge⟩ := leads_seqs_append.mp h
    exact hedge
  rw [edge_behind_option (u := '[' :: x :: ']' :: blanks) ha hc (h.of hc) htakes] at hedge
  refine ⟨a, ⟨ha, x, blanks, d.rest, hx, hblanks, by simpa using hedge, ?_⟩, ?_⟩
  · rw [htakes.rest]
    simp
  · rw [htakes.between, ofList_box hblanks ha]

theorem exists_leads_tickedOption (hc : c.Of t) (h : Ticks a c.rest) :
    ∃ d, tickedOption.Leads c d := by
  obtain ⟨ha, x, blanks, rest, hx, hblanks, hword, hrest⟩ := h
  obtain ⟨c₁, h₁, hrest₁⟩ := exists_leads_text (s := "[") hrest
  have h₂ : (char (.ofText "xX")).Leads c₁ ⟨c₁.index + 1, some x, _⟩ :=
    Cursor.next_iff.mpr ⟨x, _, hrest₁, has_tick.mpr hx, rfl⟩
  obtain ⟨c₃, h₃, hrest₃⟩ := exists_leads_text (s := "]") (c := ⟨c₁.index + 1, some x, _⟩) rfl
  obtain ⟨c₄, h₄, hrest₄⟩ := exists_leads_many (s := .blank) hblanks hrest₃
  obtain ⟨c₅, h₅, hrest₅⟩ := exists_leads_text hrest₄
  have hc₄ : c₄.Of t := h₄.of (h₃.of (h₂.of (h₁.of hc)))
  obtain ⟨w, hw, htakes⟩ := h₅.spells
  obtain rfl := eq_of_spells_text hw
  have hoption : (anyOf [text "Yes", text "Partial", text "No", text "N/A"]).Leads c₄ c₅ :=
    leads_anyOf.mpr ⟨text a, List.mem_map_of_mem (f := text) ha, h₅⟩
  have hedge : (Place.word .edge false).holds c₅ = true := by
    rw [edge_behind_option (u := []) ha hc₄ (h₅.of hc₄) htakes, hrest₅, hword]
    rfl
  refine ⟨c₅, ?_⟩
  simp only [tickedOption, leads_seqs_cons]
  exact ⟨c₁, h₁, _, h₂, c₃, h₃, c₄, h₄, c₅, hoption, c₅, ⟨rfl, hedge⟩, rfl⟩

theorem answer?_eq_some_iff : answer? t = some a ↔ FirstTicked a t := by
  have hP : ∀ c, c.Of t → ((∃ d, tickedOption.Leads c d) ↔ BeginsTicked c.rest) := fun c hc =>
    ⟨fun ⟨d, hcd⟩ => (ticks_of_leads hc hcd).imp fun _ => And.left,
      fun ⟨a, ha⟩ => exists_leads_tickedOption hc ha⟩
  rw [answer?, Option.map_eq_some_iff]
  constructor
  · rintro ⟨⟨c, d⟩, hfind, rfl⟩
    obtain ⟨hc, hcd, hfirst⟩ := first_of_find? hP hfind
    obtain ⟨a, ha, rfl⟩ := ticks_of_leads hc hcd
    exact ⟨c.rest, hfirst, ha⟩
  · rintro ⟨v, hfirst, ha⟩
    obtain ⟨c, d, hfind, rfl⟩ := exists_find?_of_first hP hfirst
    obtain ⟨hc, hcd, -⟩ := first_of_find? hP hfind
    obtain ⟨b, hb, hanswer⟩ := ticks_of_leads hc hcd
    exact ⟨(c, d), hfind, hanswer.trans (hb.unique ha)⟩

/-- The mark that headings start with. -/
def mark : List Char := "###".toList

/-- The text up to the next mark. -/
def untilMark (t : List Char) : List Char :=
  match Text.splitAtFirst? mark t with
  | some (before, _) => before
  | none => t

theorem first_opens_iff :
    First (Opens prompt) t v ↔ ∃ c d, (folded prompt).find? t = some (c, d) ∧ c.rest = v := by
  have hP : ∀ c, c.Of t → ((∃ d, (folded prompt).Leads c d) ↔ Opens prompt c.rest) := fun c _ =>
    exists_leads_folded_iff
  refine ⟨exists_find?_of_first hP, ?_⟩
  rintro ⟨c, d, hfind, rfl⟩
  exact (first_of_find? hP hfind).2.2

theorem answerTo?_eq_some_iff : answerTo? prompt t = some a ↔
    ∃ v, First (Opens prompt) t v ∧ FirstTicked a (untilMark v) := by
  rw [answerTo?, section?, Option.bind_eq_some_iff]
  constructor
  · rintro ⟨s, hs, ha⟩
    obtain ⟨⟨c, d⟩, hfind, rfl⟩ := Option.map_eq_some_iff.mp hs
    exact ⟨c.rest, first_opens_iff.mpr ⟨c, d, hfind, rfl⟩, answer?_eq_some_iff.mp ha⟩
  · rintro ⟨v, hfirst, ha⟩
    obtain ⟨c, d, hfind, rfl⟩ := first_opens_iff.mp hfirst
    exact ⟨untilMark c.rest, Option.map_eq_some_iff.mpr ⟨(c, d), hfind, rfl⟩,
      answer?_eq_some_iff.mpr ha⟩

/-! ### Checklists in sections -/

/-- A section of a checklist: its heading and what stands below the line of the heading. -/
structure Section where
  heading : List Char
  body : List Char
  heading_line : '\n' ∉ heading
  body_below : body = [] ∨ body.head? = some '\n'
  unmarked : ¬ mark <:+: heading ++ body

def Section.text (s : Section) : List Char := mark ++ ' ' :: (s.heading ++ s.body)

/-- A checklist in sections, each of which starts on a line of its own. -/
structure Outline where
  preamble : List Char
  sections : List Section
  unmarked : ¬ mark <:+: preamble
  lines : ∀ b ∈ (preamble :: sections.map Section.text).dropLast, b = [] ∨ b.getLast? = some '\n'

namespace Outline

/-- The parts of a checklist: what stands in front of the sections, and the sections. -/
def blocks (o : Outline) : List (List Char) := o.preamble :: o.sections.map Section.text

def text (o : Outline) : String := String.ofList o.blocks.flatten

/-- The first part that mentions a prompt. -/
def mentioned? (o : Outline) (prompt : String) : Option (List Char) :=
  o.blocks.find? fun b => Mentions prompt b

/-- Whether no two headings have a prompt. -/
def HeadedOnce (o : Outline) (prompt : String) : Prop :=
  o.sections.Pairwise fun s s' => ¬ (Mentions prompt s.heading ∧ Mentions prompt s'.heading)

/-- Whether the first part that mentions a prompt, if there is one, is a section whose heading has it. -/
def HeadedFirst (o : Outline) (prompt : String) : Prop :=
  ∀ block, o.mentioned? prompt = some block →
    ∃ s ∈ o.sections, s.text = block ∧ Mentions prompt s.heading

theorem mentioned?_eq_some_iff {o : Outline} {block : List Char} : o.mentioned? prompt = some block ↔
    Mentions prompt block ∧ ∃ front back, o.blocks = front ++ block :: back ∧
      ∀ b ∈ front, ¬ Mentions prompt b := by
  simp [mentioned?, List.find?_eq_some_iff_append]

theorem exists_mentioned? {o : Outline} {s : Section} (hs : s ∈ o.sections) (h : Mentions prompt s.text) :
    ∃ block, o.mentioned? prompt = some block := by
  refine Option.isSome_iff_exists.mp (List.find?_isSome.mpr ⟨s.text, ?_, decide_eq_true h⟩)
  exact List.mem_cons_of_mem _ (List.mem_map_of_mem hs)

theorem HeadedOnce.eq_of_mentions {o : Outline} {s s' : Section} (h : o.HeadedOnce prompt)
    (hs : s ∈ o.sections) (hs' : s' ∈ o.sections) (hm : Mentions prompt s.heading)
    (hm' : Mentions prompt s'.heading) : s = s' := by
  have : Std.Symm fun s s' : Section => ¬ (Mentions prompt s.heading ∧ Mentions prompt s'.heading) :=
    ⟨fun _ _ hnot hboth => hnot hboth.symm⟩
  by_contra hne
  exact h.forall hs hs' hne ⟨hm, hm'⟩

theorem toList_text (o : Outline) : o.text.toList = o.blocks.flatten := String.toList_ofList

end Outline

/-- What all prompts have in common: no character of theirs is that of a mark or of a box. -/
structure Plain (prompt : String) : Prop where
  ne_nil : prompt.toList ≠ []
  hash : foldChar '#' ∉ prompt.toList.map foldChar
  bracket : foldChar '[' ∉ prompt.toList.map foldChar

theorem plain_of_mem (h : (prompt, column) ∈ prompts) : Plain prompt := by
  have hall : ∀ p ∈ prompts, p.1.toList ≠ [] ∧ foldChar '#' ∉ p.1.toList.map foldChar ∧
      foldChar '[' ∉ p.1.toList.map foldChar := by decide
  obtain ⟨hne, hmark, hbox⟩ := hall _ h
  exact ⟨hne, hmark, hbox⟩

section Plain

variable (h : Plain prompt)
include h

theorem Plain.not_opens_nil : ¬ Opens prompt [] := by
  rintro ⟨w, hw, hfold⟩
  rw [List.prefix_nil.mp hw] at hfold
  exact h.ne_nil (List.map_eq_nil_iff.mp hfold.symm)

/-- A prompt does not go on beyond a part of the checklist. -/
theorem Plain.opens_append_iff (hys : ys = [] ∨ ys.head? = some '#') :
    Opens prompt (v ++ ys) ↔ Opens prompt v := by
  constructor
  · rintro ⟨w, hw, hfold⟩
    rcases List.prefix_or_prefix_of_prefix hw (List.prefix_append v ys) with hwv | ⟨w', rfl⟩
    · exact ⟨w, hwv, hfold⟩
    · rw [List.prefix_append_right_inj] at hw
      cases w' with
      | nil => exact ⟨v, List.prefix_rfl, by simpa using hfold⟩
      | cons x w' =>
        obtain ⟨r, rfl⟩ := hw
        obtain rfl : x = '#' := by simpa using hys
        refine absurd ?_ h.hash
        rw [← hfold]
        exact List.mem_map_of_mem (by simp)
  · exact fun ⟨w, hw, hfold⟩ => ⟨w, hw.trans (List.prefix_append v ys), hfold⟩

/-- The first mention is in the first part that has one. -/
theorem Plain.first_flatten {blocks : List (List Char)} (hb : ∀ b ∈ blocks.tail, b.head? = some '#') :
    First (Opens prompt) blocks.flatten w ↔ ∃ front block back v, blocks = front ++ block :: back ∧
      (∀ b ∈ front, ¬ Mentions prompt b) ∧ First (Opens prompt) block v ∧ w = v ++ back.flatten := by
  induction blocks with
  | nil =>
    refine iff_of_false (fun hw => ?_) ?_
    · exact h.not_opens_nil (List.suffix_nil.mp hw.suffix ▸ hw.holds)
    · rintro ⟨front, block, back, v, hnil, -⟩
      exact List.append_ne_nil_of_right_ne_nil front (List.cons_ne_nil block back) hnil.symm
  | cons b bs ih =>
    have hys : bs.flatten = [] ∨ bs.flatten.head? = some '#' := by
      cases bs with
      | nil => exact .inl rfl
      | cons b' bs =>
        have hhead := hb b' List.mem_cons_self
        rw [List.flatten_cons, List.head?_append, hhead]
        exact .inr rfl
    rw [List.flatten_cons]
    by_cases hmention : Mentions prompt b
    · -- the first part has a mention, and no other part can be the first that does
      obtain ⟨v, hv, hopens⟩ := mentions_iff.mp hmention
      obtain ⟨v, hfirst⟩ := Text.exists_first hv hopens
      have hflat : First (Opens prompt) (b ++ bs.flatten) (v ++ bs.flatten) :=
        hfirst.append fun v _ => h.opens_append_iff hys
      constructor
      · exact fun hw => ⟨[], b, bs, v, rfl, nofun, hfirst, hw.unique hflat⟩
      · rintro ⟨front, block, back, v', hsplit, hfront, hv', rfl⟩
        cases front with
        | nil =>
          obtain ⟨rfl, rfl⟩ := List.cons.inj hsplit
          rwa [hv'.unique hfirst]
        | cons b' front =>
          obtain ⟨rfl, -⟩ := List.cons.inj hsplit
          exact absurd hmention (hfront b List.mem_cons_self)
    · have hskip : ∀ v, v <:+ b → v ≠ [] → ¬ Opens prompt (v ++ bs.flatten) := fun v hv _ hopens =>
        hmention (mentions_iff.mpr ⟨v, hv, (h.opens_append_iff hys).mp hopens⟩)
      rw [first_append_of_not hskip, ih fun b' hb' => hb b' (List.mem_of_mem_tail hb')]
      constructor
      · rintro ⟨front, block, back, v, rfl, hfront, hv⟩
        exact ⟨b :: front, block, back, v, rfl, List.forall_mem_cons.mpr ⟨hmention, hfront⟩, hv⟩
      · rintro ⟨front, block, back, v, hsplit, hfront, hv⟩
        cases front with
        | nil =>
          obtain ⟨rfl, -⟩ := List.cons.inj hsplit
          exact absurd (mentions_of_first hv.1) hmention
        | cons b' front =>
          obtain ⟨-, rfl⟩ := List.cons.inj hsplit
          exact ⟨front, block, back, v, rfl, (List.forall_mem_cons.mp hfront).2, hv⟩

/-- Between a prompt and what follows there is no box. -/
theorem Plain.firstTicked_drop_iff (hv : Opens prompt v) :
    FirstTicked a (v.drop prompt.length) ↔ FirstTicked a v := by
  obtain ⟨w, ⟨r, rfl⟩, hfold⟩ := hv
  have hlength : prompt.length = w.length := by
    rw [← String.length_toList]
    simpa using (congrArg List.length hfold).symm
  have hbox : ∀ u, u <:+ w → u ≠ [] → ¬ BeginsTicked (u ++ r) := by
    rintro u hu hne ⟨b, -, x, blanks, rest, -, -, -, htext⟩
    obtain ⟨y, u, rfl⟩ := List.exists_cons_of_ne_nil hne
    obtain rfl : y = '[' := (List.cons.inj htext).1
    refine h.bracket ?_
    rw [← hfold]
    exact List.mem_map_of_mem (hu.subset List.mem_cons_self)
  rw [hlength, List.drop_left]
  exact exists_congr fun v => and_congr_left fun _ => (first_append_of_not hbox).symm

/-- What answers a prompt in a text can be searched for. -/
theorem Plain.answers_iff : Answers prompt a t ↔
    ((folded prompt).find? t).bind (fun x => answer? x.1.rest) = some a := by
  rw [Option.bind_eq_some_iff]
  constructor
  · rintro ⟨v, hfirst, ha⟩
    have hticked := (h.firstTicked_drop_iff hfirst.holds).mp ha
    obtain ⟨c, d, hfind, rfl⟩ := first_opens_iff.mp hfirst
    exact ⟨(c, d), hfind, answer?_eq_some_iff.mpr hticked⟩
  · rintro ⟨⟨c, d⟩, hfind, ha⟩
    have hfirst : First (Opens prompt) t c.rest := first_opens_iff.mpr ⟨c, d, hfind, rfl⟩
    exact ⟨c.rest, hfirst, (h.firstTicked_drop_iff hfirst.holds).mpr (answer?_eq_some_iff.mp ha)⟩

/-- In a part of a checklist there is no mark behind a prompt. -/
theorem Plain.unmarked {o : Outline} {block : List Char} (hb : block ∈ o.blocks) (hv : v <:+ block)
    (hopens : Opens prompt v) : ¬ mark <:+: v := by
  rcases List.mem_cons.mp hb with rfl | hb
  · exact fun hmark => o.unmarked (hmark.trans hv.isInfix)
  · obtain ⟨s, -, rfl⟩ := List.mem_map.mp hb
    have hhead : ∀ r, v ≠ '#' :: r := by
      rintro r rfl
      obtain ⟨w, hw, hfold⟩ := hopens
      rcases List.prefix_cons_iff.mp hw with rfl | ⟨w', rfl, -⟩
      · exact h.ne_nil (List.map_eq_nil_iff.mp hfold.symm)
      · refine h.hash ?_
        rw [← hfold]
        exact List.mem_map_of_mem List.mem_cons_self
    have hbehind : v <:+ ' ' :: (s.heading ++ s.body) := by
      have hone := (List.suffix_cons_iff.mp hv).resolve_left (hhead _)
      have htwo := (List.suffix_cons_iff.mp hone).resolve_left (hhead _)
      exact (List.suffix_cons_iff.mp htwo).resolve_left (hhead _)
    intro hmark
    rcases List.infix_cons_iff.mp (hmark.trans hbehind.isInfix) with hprefix | hinfix
    · exact absurd (List.cons_prefix_cons.mp hprefix).1 (by decide)
    · exact s.unmarked hinfix

end Plain

/-- A text is cut where the next section starts. -/
theorem untilMark_append {back : List (List Char)} (hv : ¬ mark <:+: v)
    (hline : back ≠ [] → v.getLast? = some '\n') (hback : ∀ b ∈ back, ∃ r, b = mark ++ r) :
    untilMark (v ++ back.flatten) = v := by
  cases back with
  | nil =>
    rw [List.flatten_nil, List.append_nil, untilMark, Text.splitAtFirst?_eq_none (by decide) hv]
  | cons b back =>
    obtain ⟨r, rfl⟩ := hback b List.mem_cons_self
    have hcut := Text.splitAtFirst?_append (p := mark) (v := v) (r := r ++ back.flatten) (by decide)
      fun w hw hne => Text.not_prefix_append hv (hline (List.cons_ne_nil _ _)) (by decide) hw hne
    rw [List.flatten_cons, List.append_assoc, untilMark, hcut]

namespace Outline

variable {o : Outline} {front back : List (List Char)} {block : List Char}

/-- What is searched for the answer is the rest of the part with the first mention. -/
theorem untilMark_of_first (h : Plain prompt) (hsplit : o.blocks = front ++ block :: back)
    (hv : First (Opens prompt) block v) : untilMark (v ++ back.flatten) = v := by
  have hblock : block ∈ o.blocks := by
    rw [hsplit]
    exact List.mem_append_right _ List.mem_cons_self
  refine untilMark_append (h.unmarked hblock hv.suffix hv.holds) (fun hback => ?_) fun b hb => ?_
  · have hmem : block ∈ o.blocks.dropLast := by
      rw [hsplit, List.dropLast_append_of_ne_nil (List.cons_ne_nil block back),
        List.dropLast_cons_of_ne_nil hback]
      exact List.mem_append_right _ List.mem_cons_self
    have hne : v ≠ [] := by
      rintro rfl
      exact h.not_opens_nil hv.holds
    obtain ⟨u, rfl⟩ := hv.suffix
    have hlast := (o.lines _ hmem).resolve_left (List.append_ne_nil_of_right_ne_nil u hne)
    rwa [List.getLast?_append_of_ne_nil u hne] at hlast
  · have hsection : b ∈ o.sections.map Section.text := by
      cases front with
      | nil =>
        obtain ⟨-, hsections⟩ := List.cons.inj hsplit
        rwa [hsections]
      | cons b' front =>
        obtain ⟨-, hsections⟩ := List.cons.inj hsplit
        rw [hsections]
        exact List.mem_append_right _ (List.mem_cons_of_mem _ hb)
    obtain ⟨s, -, rfl⟩ := List.mem_map.mp hsection
    exact ⟨_, rfl⟩

theorem answerTo?_iff (h : Plain prompt) : answerTo? prompt o.text.toList = some a ↔
    ∃ block, o.mentioned? prompt = some block ∧ Answers prompt a block := by
  have hsections : ∀ b ∈ o.blocks.tail, b.head? = some '#' := by
    intro b hb
    obtain ⟨s, -, rfl⟩ := List.mem_map.mp hb
    rfl
  rw [answerTo?_eq_some_iff, toList_text]
  constructor
  · rintro ⟨v, hv, ha⟩
    obtain ⟨front, block, back, v, hsplit, hfront, hfirst, rfl⟩ := (h.first_flatten hsections).mp hv
    rw [untilMark_of_first h hsplit hfirst] at ha
    exact ⟨block, mentioned?_eq_some_iff.mpr ⟨mentions_of_first hfirst, front, back, hsplit, hfront⟩,
      v, hfirst, (h.firstTicked_drop_iff hfirst.holds).mpr ha⟩
  · rintro ⟨block, hblock, v, hfirst, ha⟩
    obtain ⟨-, front, back, hsplit, hfront⟩ := mentioned?_eq_some_iff.mp hblock
    refine ⟨v ++ back.flatten,
      (h.first_flatten hsections).mpr ⟨front, block, back, v, hsplit, hfront, hfirst, rfl⟩, ?_⟩
    rw [untilMark_of_first h hsplit hfirst]
    exact (h.firstTicked_drop_iff hfirst.holds).mp ha

end Outline

/-- The answer in a column is the one to its prompt. -/
theorem mem_answers_iff (hp : (prompt, column) ∈ prompts) {content : String} :
    (column, a) ∈ (ofText content).answers ↔ answerTo? prompt content.toList = some a := by
  have hcolumns : ∀ p ∈ prompts, ∀ q ∈ prompts, p.2 = q.2 → p = q := by decide
  rw [mem_ofText]
  constructor
  · rintro ⟨prompt', hp', ha⟩
    cases hcolumns _ hp' _ hp rfl
    exact ha
  · exact fun ha => ⟨prompt, hp, ha⟩

end Evaluation

open Evaluation

/-- A criterion of a checklist in sections is answered by the first ticked option behind the first
mention of its prompt, in the first part of the checklist that mentions it.  If the heading of this part
has the prompt, or if no part mentions it, the answer is that of the section with the prompt in its
heading, and there is none without such a section.  Otherwise the answer is that of another part. -/
theorem answers_of_first_mention (o : Outline) {prompt column : String}
    (hp : (prompt, column) ∈ prompts) :
    (∀ a, (column, a) ∈ (ofText o.text).answers ↔
      ∃ block, o.mentioned? prompt = some block ∧ Answers prompt a block) ∧
    (o.HeadedOnce prompt → o.HeadedFirst prompt → ∀ a, (column, a) ∈ (ofText o.text).answers ↔
      ∃ s ∈ o.sections, Mentions prompt s.heading ∧ Answers prompt a s.text) ∧
    (¬ o.HeadedFirst prompt → ∃ block ∈ o.blocks,
      (∀ s ∈ o.sections, Mentions prompt s.heading → s.text ≠ block) ∧
        ∀ a, (column, a) ∈ (ofText o.text).answers ↔ Answers prompt a block) := by
  have hanswers : ∀ a, (column, a) ∈ (ofText o.text).answers ↔
      ∃ block, o.mentioned? prompt = some block ∧ Answers prompt a block := fun a =>
    (mem_answers_iff hp).trans (o.answerTo?_iff (plain_of_mem hp))
  refine ⟨hanswers, fun honce hheaded a => (hanswers a).trans ⟨?_, ?_⟩, fun hnot => ?_⟩
  · rintro ⟨block, hblock, ha⟩
    obtain ⟨s, hs, rfl, hmention⟩ := hheaded block hblock
    exact ⟨s, hs, hmention, ha⟩
  · rintro ⟨s, hs, hmention, ha⟩
    obtain ⟨block, hblock⟩ := o.exists_mentioned? hs ha.mentions
    obtain ⟨s', hs', rfl, hmention'⟩ := hheaded block hblock
    obtain rfl := honce.eq_of_mentions hs hs' hmention hmention'
    exact ⟨_, hblock, ha⟩
  · simp only [Outline.HeadedFirst, not_forall] at hnot
    obtain ⟨block, hblock, hnone⟩ := hnot
    refine ⟨block, List.mem_of_find?_eq_some hblock, fun s hs hmention htext => ?_, fun a => ?_⟩
    · exact hnone ⟨s, hs, htext, hmention⟩
    · rw [hanswers]
      simp [hblock]

/-- A checklist with notes behind its sections that mention a prompt again. -/
def notedOutline : Outline where
  preamble := "# Endpoint 7\n".toList
  sections := [
    ⟨"1. Targets the correct endpoint".toList, "\n- [ ] Yes\n- [x] Partial\n".toList, by decide,
      by decide, by decide⟩,
    ⟨"2. BOUNDARY CONDITIONS tested".toList, "\n- [X] No\n".toList, by decide, by decide, by decide⟩,
    ⟨"Notes".toList, "\nBoundary conditions: [x] Yes".toList, by decide, by decide, by decide⟩]
  unmarked := by decide
  lines := by decide

theorem answers_of_first_mention_noted :
    ("boundary_conditions", "No") ∈ (ofText notedOutline.text).answers ∧
      ∃ s ∈ notedOutline.sections, Mentions "Boundary conditions" s.heading ∧
        Answers "Boundary conditions" "No" s.text := by
  have hp : ("Boundary conditions", "boundary_conditions") ∈ prompts := by decide
  have hno : ("boundary_conditions", "No") ∈ (ofText notedOutline.text).answers := by
    rw [mem_answers_iff hp, Outline.toList_text]
    decide
  have honce : notedOutline.HeadedOnce "Boundary conditions" := by
    rw [Outline.HeadedOnce]
    decide
  have hheaded : notedOutline.HeadedFirst "Boundary conditions" := by
    have hfirst : notedOutline.mentioned? "Boundary conditions" =
        some "### 2. BOUNDARY CONDITIONS tested\n- [X] No\n".toList := by decide
    intro block hblock
    cases hfirst.symm.trans hblock
    decide
  obtain ⟨-, hown, -⟩ := answers_of_first_mention notedOutline hp
  exact ⟨hno, (hown honce hheaded "No").mp hno⟩

/-- A checklist whose preamble mentions the prompt of its only section. -/
def remarkedOutline : Outline where
  preamble := "Boundary conditions were hard to judge.\n\n".toList
  sections := [
    ⟨"1. Boundary conditions".toList, "\n- [x] Yes\n".toList, by decide, by decide, by decide⟩]
  unmarked := by decide
  lines := by decide

/-- A mention of a prompt in front of its section takes away the answer that is ticked there. -/
theorem answers_not_own :
    (∀ s ∈ remarkedOutline.sections, ∀ p ∈ prompts, ∀ q ∈ prompts, Mentions p.1 s.heading →
      Mentions q.1 s.heading → p = q) ∧
    (∀ p ∈ prompts, remarkedOutline.HeadedOnce p.1) ∧
    (∃ s ∈ remarkedOutline.sections, Mentions "Boundary conditions" s.heading ∧
      Answers "Boundary conditions" "Yes" s.text) ∧
    (ofText remarkedOutline.text).answers = [] := by
  have hnone : (ofText remarkedOutline.text).answers = [] := by
    rw [ofText, Outline.toList_text]
    decide +kernel
  refine ⟨by decide +kernel, fun p _ => List.pairwise_singleton _ _, ?_, hnone⟩
  refine ⟨_, List.mem_cons_self, by decide +kernel, ?_⟩
  have hp : ("Boundary conditions", "boundary_conditions") ∈ prompts := by decide
  rw [(plain_of_mem hp).answers_iff]
  decide

end SuiteBench
