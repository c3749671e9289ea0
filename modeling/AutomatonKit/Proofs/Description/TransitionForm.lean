import Mathlib
import AutomatonKit.Description.Directive
import AutomatonKit.Proofs.Text.Split

/-!
# The form of a transition line

A transition line is put together from three parts by a comma and an arrow.  If the separators occur
nowhere else (`LineParts.Proper`), cutting the line at its first arrow and what stands before it at
its first comma gives the parts back (`Proper.splitTransition_line`).  So a line has at most one
such triple of parts (`Proper.eq_of_line_eq`), and it has one exactly if it has the form that the
notation asks for (`hasTransitionForm_iff`).  `splitTransition_exact` puts this together.

Dashes and angle brackets next to a separator do no harm, since no arrow overlaps a comma or another
arrow (`proper_iff`, `eq_of_append_arrow_eq`).
-/

namespace AutomatonKit.Description

open Text

/-- The line has exactly one arrow, and exactly one comma before it. -/
def HasTransitionForm (line : List Char) : Prop :=
  ∃ before after, (∀ a b, line = a ++ '-' :: '>' :: b ↔ a = before ∧ b = after) ∧
    before.count ',' = 1

/-- The parts of a transition line, with the blanks around them. -/
@[ext]
structure LineParts where
  source : List Char
  symbol : List Char
  target : List Char

namespace LineParts

/-- The line that is put together from the parts. -/
def line (p : LineParts) : List Char :=
  p.source ++ ',' :: p.symbol ++ '-' :: '>' :: p.target

/-- The parts without the blanks around them. -/
def trimmed (p : LineParts) : List Char × List Char × List Char :=
  (trim p.source, trim p.symbol, trim p.target)

/-- The separators of the line do not occur in the parts, but for commas in the last one. -/
structure Proper (p : LineParts) : Prop where
  no_comma_source : ',' ∉ p.source
  no_comma_symbol : ',' ∉ p.symbol
  no_arrow_source : ¬ ['-', '>'] <:+: p.source
  no_arrow_symbol : ¬ ['-', '>'] <:+: p.symbol
  no_arrow_target : ¬ ['-', '>'] <:+: p.target

variable {p q : LineParts} {line : List Char}

/-- No arrow overlaps the comma, so both parts before the arrow may be looked at together. -/
theorem proper_iff :
    p.Proper ↔ ',' ∉ p.source ∧ ',' ∉ p.symbol ∧ hasArrow (p.source ++ ',' :: p.symbol) = false ∧
      hasArrow p.target = false := by
  rw [hasArrow_append_cons (by decide) (by decide), Bool.or_eq_false_iff, hasArrow_eq_false_iff,
    hasArrow_eq_false_iff, hasArrow_eq_false_iff]
  constructor
  · intro h
    exact ⟨h.no_comma_source, h.no_comma_symbol, ⟨h.no_arrow_source, h.no_arrow_symbol⟩,
      h.no_arrow_target⟩
  · rintro ⟨hsource, hsymbol, ⟨hsource', hsymbol'⟩, htarget⟩
    exact ⟨hsource, hsymbol, hsource', hsymbol', htarget⟩

/-- The arrow of the line is its first one. -/
theorem Proper.cutArrow_line (h : p.Proper) :
    cutArrow p.line = some (p.source ++ ',' :: p.symbol, p.target) :=
  cutArrow_eq_some_iff.mpr ⟨rfl, (proper_iff.mp h).2.2.1⟩

theorem Proper.cutAt_comma (h : p.Proper) :
    cutAt ',' (p.source ++ ',' :: p.symbol) = some (p.source, p.symbol) :=
  cutAt_eq_some_iff.mpr ⟨rfl, h.no_comma_source⟩

/-- **The parts of a line are found again**, without the blanks around them. -/
theorem Proper.splitTransition_line (h : p.Proper) :
    splitTransition p.line = some p.trimmed := by
  have hsymbol : p.symbol.contains ',' = false := by simpa using h.no_comma_symbol
  have htarget : hasArrow p.target = false := (proper_iff.mp h).2.2.2
  rw [splitTransition, h.cutArrow_line, Option.bind_eq_bind, Option.bind_some]
  simp only [htarget, Bool.false_eq_true, if_false, h.cutAt_comma, Option.bind_some, hsymbol]
  rfl

/-- **The parts are determined by the line.** -/
theorem Proper.eq_of_line_eq (hp : p.Proper) (hq : q.Proper) (hline : p.line = q.line) : p = q := by
  have hcut := hp.cutArrow_line
  rw [hline, hq.cutArrow_line, Option.some.injEq, Prod.mk.injEq] at hcut
  obtain ⟨hleft, htarget⟩ := hcut
  have hcomma := hp.cutAt_comma
  rw [← hleft, hq.cutAt_comma, Option.some.injEq, Prod.mk.injEq] at hcomma
  exact LineParts.ext hcomma.1.symm hcomma.2.symm htarget.symm

/-- A line that is split is put together from proper parts. -/
theorem exists_of_splitTransition_eq_some {parts : List Char × List Char × List Char}
    (h : splitTransition line = some parts) : ∃ p : LineParts, p.Proper ∧ p.line = line := by
  obtain ⟨⟨left, target⟩, hcut, hright⟩ := Option.bind_eq_some_iff.mp h
  obtain ⟨rfl, hleft⟩ := cutArrow_eq_some_iff.mp hcut
  dsimp only at hright
  split at hright
  · exact nomatch hright
  · next htarget =>
    obtain ⟨⟨source, symbol⟩, hcomma, hparts⟩ := Option.bind_eq_some_iff.mp hright
    obtain ⟨rfl, hsource⟩ := cutAt_eq_some_iff.mp hcomma
    dsimp only at hparts
    split at hparts
    · exact nomatch hparts
    · next hsymbol =>
      refine ⟨⟨source, symbol, target⟩, proper_iff.mpr ⟨hsource, ?_, hleft, ?_⟩, rfl⟩
      · simpa using hsymbol
      · exact Bool.eq_false_iff.mpr htarget

/-- **Lines are split into proper parts.** -/
theorem splitTransition_eq_some_iff {parts : List Char × List Char × List Char} :
    splitTransition line = some parts ↔
      ∃ p : LineParts, p.Proper ∧ p.line = line ∧ p.trimmed = parts := by
  constructor
  · intro h
    obtain ⟨p, hp, rfl⟩ := exists_of_splitTransition_eq_some h
    exact ⟨p, hp, rfl, Option.some.inj (hp.splitTransition_line.symm.trans h)⟩
  · rintro ⟨p, hp, rfl, rfl⟩
    exact hp.splitTransition_line

/-! ### Blanks around the separators -/

/-- The parts with a blank behind the comma and one on each side of the arrow. -/
def spaced (p : LineParts) : LineParts :=
  ⟨p.source, ' ' :: p.symbol ++ [' '], ' ' :: p.target⟩

theorem line_spaced (p : LineParts) :
    p.spaced.line = p.source ++ [',', ' '] ++ p.symbol ++ [' ', '-', '>', ' '] ++ p.target := by
  simp [line, spaced]

theorem Proper.spaced (h : p.Proper) : p.spaced.Proper where
  no_comma_source := h.no_comma_source
  no_comma_symbol := by simpa [LineParts.spaced] using h.no_comma_symbol
  no_arrow_source := h.no_arrow_source
  no_arrow_symbol := by
    have hblank : ∀ c ∈ [' '], isBlank c = true := List.forall_mem_singleton.mpr isBlank_space
    rw [LineParts.spaced, ← hasArrow_eq_false_iff, hasArrow_append_blanks hblank, hasArrow_cons,
      hasArrow_eq_false_iff.mpr h.no_arrow_symbol]
    rfl
  no_arrow_target := by
    rw [LineParts.spaced, ← hasArrow_eq_false_iff, hasArrow_cons,
      hasArrow_eq_false_iff.mpr h.no_arrow_target]
    rfl

theorem trimmed_spaced (p : LineParts) : p.spaced.trimmed = p.trimmed := by
  have hblank : ∀ c ∈ [' '], isBlank c = true := List.forall_mem_singleton.mpr isBlank_space
  rw [trimmed, trimmed, spaced, trim_append_blanks hblank, trim_cons_of_blank isBlank_space,
    trim_cons_of_blank isBlank_space]

end LineParts

/-! ### One arrow and one comma before it -/

section

variable {line before after : List Char}

/-- If there is only one way to cut a line at an arrow, neither side has another one. -/
theorem hasArrow_of_unique_cut
    (h : ∀ a b, line = a ++ '-' :: '>' :: b ↔ a = before ∧ b = after) :
    hasArrow before = false ∧ hasArrow after = false := by
  have hline : line = before ++ '-' :: '>' :: after := (h before after).mpr ⟨rfl, rfl⟩
  constructor
  · by_contra harrow
    obtain ⟨x, y, rfl, -⟩ := exists_eq_append_arrow (Bool.not_eq_false _ ▸ harrow)
    have hx : x = x ++ '-' :: '>' :: y := ((h x (y ++ '-' :: '>' :: after)).mp (by simp [hline])).1
    simpa using congrArg List.length hx
  · by_contra harrow
    obtain ⟨x, y, rfl, -⟩ := exists_eq_append_arrow (Bool.not_eq_false _ ▸ harrow)
    have hy : y = x ++ '-' :: '>' :: y := ((h (before ++ '-' :: '>' :: x) y).mp (by simp [hline])).2
    have hlength := congrArg List.length hy
    simp only [List.length_append, List.length_cons] at hlength
    omega

theorem exists_of_count_comma (h : before.count ',' = 1) :
    ∃ source symbol, before = source ++ ',' :: symbol ∧ ',' ∉ source ∧ ',' ∉ symbol := by
  have hmem : ',' ∈ before := List.count_pos_iff.mp (by omega)
  obtain ⟨source, symbol, rfl, hsource⟩ := List.eq_append_cons_of_mem hmem
  refine ⟨source, symbol, rfl, hsource, List.count_eq_zero.mp ?_⟩
  rw [List.count_append, List.count_cons_self] at h
  omega

/-- **A line has the form of a transition** if it is put together from proper parts. -/
theorem hasTransitionForm_iff :
    HasTransitionForm line ↔ ∃ p : LineParts, p.Proper ∧ p.line = line := by
  constructor
  · rintro ⟨before, after, hcut, hcount⟩
    obtain ⟨hbefore, hafter⟩ := hasArrow_of_unique_cut hcut
    have hline := (hcut before after).mpr ⟨rfl, rfl⟩
    obtain ⟨source, symbol, rfl, hsource, hsymbol⟩ := exists_of_count_comma hcount
    exact ⟨⟨source, symbol, after⟩, LineParts.proper_iff.mpr ⟨hsource, hsymbol, hbefore, hafter⟩,
      hline.symm⟩
  · rintro ⟨p, hp, rfl⟩
    obtain ⟨hsource, hsymbol, hleft, htarget⟩ := LineParts.proper_iff.mp hp
    refine ⟨p.source ++ ',' :: p.symbol, p.target, fun a b => ⟨fun h => ?_, ?_⟩, ?_⟩
    · exact eq_of_append_arrow_eq hleft htarget h
    · rintro ⟨rfl, rfl⟩
      rfl
    · rw [List.count_append, List.count_cons_self, List.count_eq_zero.mpr hsource,
        List.count_eq_zero.mpr hsymbol]

end

/-- **Transition lines are recognised exactly.**  A line is split if it has exactly one arrow and
exactly one comma before it.  These are the lines that are put together from parts in which the
separators do not occur, the parts are then determined by the line, and the result is these parts
without the blanks around them.  Trimmed parts that are joined with a blank behind the comma and one
on each side of the arrow are found again, whatever characters they begin and end with. -/
theorem splitTransition_exact (line : List Char) :
    ((splitTransition line).isSome = true ↔ HasTransitionForm line) ∧
    (HasTransitionForm line ↔ ∃! p : LineParts, p.Proper ∧ p.line = line) ∧
    (∀ source symbol target, splitTransition line = some (source, symbol, target) ↔
      ∃ p : LineParts, p.Proper ∧ p.line = line ∧
        source = trim p.source ∧ symbol = trim p.symbol ∧ target = trim p.target) ∧
    ∀ p : LineParts, p.Proper →
      trim p.source = p.source → trim p.symbol = p.symbol → trim p.target = p.target →
      splitTransition (p.source ++ [',', ' '] ++ p.symbol ++ [' ', '-', '>', ' '] ++ p.target) =
        some (p.source, p.symbol, p.target) := by
  refine ⟨⟨fun h => ?_, fun h => ?_⟩, ⟨fun h => ?_, fun h => ?_⟩, fun source symbol target => ?_,
    fun p hp hsource hsymbol htarget => ?_⟩
  · obtain ⟨parts, hparts⟩ := Option.isSome_iff_exists.mp h
    exact hasTransitionForm_iff.mpr (LineParts.exists_of_splitTransition_eq_some hparts)
  · obtain ⟨p, hp, rfl⟩ := hasTransitionForm_iff.mp h
    rw [hp.splitTransition_line]
    rfl
  · obtain ⟨p, hp, rfl⟩ := hasTransitionForm_iff.mp h
    exact ⟨p, ⟨hp, rfl⟩, fun q hq => hq.1.eq_of_line_eq hp hq.2⟩
  · exact hasTransitionForm_iff.mpr h.exists
  · rw [LineParts.splitTransition_eq_some_iff]
    simp only [LineParts.trimmed, Prod.mk.injEq, eq_comm]
  · rw [← p.line_spaced, hp.spaced.splitTransition_line, p.trimmed_spaced, LineParts.trimmed,
      hsource, hsymbol, htarget]

/-- Parts that touch the comma and the arrow with the characters of arrows. -/
def barbedParts : LineParts :=
  ⟨['a', '-'], ['>', '-'], ['>', 'b', ',', 'c']⟩

/-- The line `a-,>-->>b,c` is split where the parts of `barbedParts` meet, and so is the line with
blanks around its separators.  A line with a second arrow behind the first one is not split. -/
theorem splitTransition_exact_barbs :
    splitTransition ['a', '-', ',', '>', '-', '-', '>', '>', 'b', ',', 'c'] =
        some (['a', '-'], ['>', '-'], ['>', 'b', ',', 'c']) ∧
      (∃! p : LineParts, p.Proper ∧
        p.line = ['a', '-', ',', '>', '-', '-', '>', '>', 'b', ',', 'c']) ∧
      splitTransition
          ['a', '-', ',', ' ', '>', '-', ' ', '-', '>', ' ', '>', 'b', ',', 'c'] =
        some (['a', '-'], ['>', '-'], ['>', 'b', ',', 'c']) ∧
      ¬ HasTransitionForm ['a', ',', '0', '-', '>', 'b', '-', '>', 'c'] := by
  have hproper : barbedParts.Proper := LineParts.proper_iff.mpr (by decide)
  obtain ⟨hsome, hunique, hsplit, hspaced⟩ := splitTransition_exact barbedParts.line
  have hparts := (hsplit _ _ _).mpr ⟨barbedParts, hproper, rfl, rfl, rfl, rfl⟩
  refine ⟨hparts, hunique.mp (hsome.mp (by rw [hparts]; rfl)),
    hspaced barbedParts hproper (by decide) (by decide) (by decide), ?_⟩
  rw [← (splitTransition_exact _).1]
  decide

end AutomatonKit.Description
