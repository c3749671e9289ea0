import Mathlib
import AutomatonKit.Proofs.Description.Layout
import AutomatonKit.Proofs.Description.Meaning

/-!
# Blanks within a line

`Respaced` lists the places of a line where blanks may be put without a change of meaning: its ends,
behind the colon of a label, around the commas of a list, and, on a line without a label, around
arrows and around the commas before the first arrow.  `Respaced.readAlike`: blanks at one of these
places leave the directive of the line as it is, whether the line is in order or malformed.

On a labelled line this is because tokens are trimmed.  A line without a label is read through the
trimmed pieces before its first arrow, whether there is another arrow, and the trimmed rest
(`splitTransition_append_arrow`), and none of these three changes.  Nor can a label appear or
disappear, since no label reaches as far as the first comma or dash of a line
(`labelled_append_cons_iff`).
-/

namespace AutomatonKit.Description

open Text

/-! ### Lines without a label -/

/-- A line that begins with a label when the blanks around it are gone. -/
def Labelled (line : List Char) : Prop :=
  ∃ label ∈ labels, label <+: trim line

instance (line : List Char) : Decidable (Labelled line) :=
  inferInstanceAs (Decidable (∃ label ∈ labels, label <+: trim line))

theorem dash_not_mem_label : ∀ label ∈ labels, '-' ∉ label := by decide

/-- A label does not end with a blank, so it does not matter whether the end of the line is
trimmed. -/
theorem label_prefix_trim_iff {label : List Char} (hlabel : label ∈ labels) (s : List Char) :
    label <+: trim s ↔ label <+: trimStart s := by
  refine ⟨fun h => h.trans (trim_prefix_trimStart s), ?_⟩
  rintro ⟨rest, hrest⟩
  rw [← trim_trimStart, ← hrest, trim_label_append hlabel]
  exact List.prefix_append _ _

/-- **A label stands before a character that it does not contain** or not at all. -/
theorem labelled_append_cons_iff {c : Char} (hblank : isBlank c = false)
    (hc : ∀ label ∈ labels, c ∉ label) (a b : List Char) :
    Labelled (a ++ c :: b) ↔ Labelled a := by
  refine exists_congr fun label => and_congr_right fun hlabel => ?_
  rw [label_prefix_trim_iff hlabel, label_prefix_trim_iff hlabel, trimStart_append_cons hblank]
  constructor
  · intro h
    rcases List.prefix_or_prefix_of_prefix h (List.prefix_append _ _) with h' | ⟨t, ht⟩
    · exact h'
    · -- a longer label would reach over the character
      rw [← ht, List.prefix_append_right_inj] at h
      cases t with
      | nil => exact ⟨[], by rw [← ht, List.append_nil, List.append_nil]⟩
      | cons x t =>
        obtain ⟨rfl, -⟩ := List.cons_prefix_cons.mp h
        exact absurd (ht ▸ List.mem_append_right _ List.mem_cons_self) (hc label hlabel)
  · exact fun h => h.trans (List.prefix_append _ _)

theorem labelled_congr {line line' : List Char} (h : trim line = trim line') :
    Labelled line ↔ Labelled line' := by
  rw [Labelled, Labelled, h]

/-- The parts of a transition, given the trimmed pieces before its arrow. -/
def transitionParts? (pieces : List (List Char)) (target : List Char) :
    Option (List Char × List Char × List Char) :=
  match pieces with
  | [source, symbol] => some (source, symbol, target)
  | _ => none

/-- **The parts of a transition** are found after its first arrow. -/
theorem splitTransition_append_arrow {a : List Char} (ha : hasArrow a = false) (b : List Char) :
    splitTransition (a ++ '-' :: '>' :: b) =
      if hasArrow b then none else transitionParts? ((splitOn ',' a).map trim) (trim b) := by
  rw [splitTransition, cutArrow_eq_some_iff.mpr ⟨rfl, ha⟩, Option.bind_eq_bind, Option.bind_some]
  dsimp only
  split
  · rfl
  · refine (bind_cutAt_eq a b).trans ?_
    rw [splitOn_eq]
    cases a.splitOn ',' with
    | nil => rfl
    | cons x pieces =>
      cases pieces with
      | nil => rfl
      | cons y pieces => cases pieces <;> rfl

theorem ofPlainLine_congr {line line' : List Char} (harrow : hasArrow line = hasArrow line')
    (hparts : splitTransition line = splitTransition line') :
    Directive.ofPlainLine line = Directive.ofPlainLine line' := by
  rw [Directive.ofPlainLine, Directive.ofPlainLine, harrow, hparts]

/-- Lines with an arrow mean the same if they have the same trimmed pieces before it, and the same
trimmed rest with or without further arrows. -/
theorem ofPlainLine_append_arrow_congr {a a' b b' : List Char} (ha : hasArrow a = false)
    (ha' : hasArrow a' = false) (hpieces : (splitOn ',' a').map trim = (splitOn ',' a).map trim)
    (hb : hasArrow b' = hasArrow b) (htrim : trim b' = trim b) :
    Directive.ofPlainLine (a' ++ '-' :: '>' :: b') = .ofPlainLine (a ++ '-' :: '>' :: b) := by
  refine ofPlainLine_congr ?_ ?_
  · rw [hasArrow_append_arrow, hasArrow_append_arrow]
  · rw [splitTransition_append_arrow ha', splitTransition_append_arrow ha, hpieces, hb, htrim]

/-- **Blanks at the ends of a line without a label do not matter.** -/
theorem ofPlainLine_append_of_blank {u v : List Char} (hu : ∀ c ∈ u, isBlank c = true)
    (hv : ∀ c ∈ v, isBlank c = true) (line : List Char) :
    Directive.ofPlainLine (u ++ line ++ v) = .ofPlainLine line := by
  cases harrow : hasArrow line with
  | false =>
    have harrow' : hasArrow (u ++ line ++ v) = false := by
      rw [hasArrow_append_blanks hv, hasArrow_blanks_append hu, harrow]
    rw [Directive.ofPlainLine, Directive.ofPlainLine, harrow, harrow']
    rfl
  | true =>
    obtain ⟨a, b, rfl, ha⟩ := exists_eq_append_arrow harrow
    have hline : u ++ (a ++ '-' :: '>' :: b) ++ v = (u ++ a) ++ '-' :: '>' :: (b ++ v) := by simp
    rw [hline]
    exact ofPlainLine_append_arrow_congr ha ((hasArrow_blanks_append hu a).trans ha)
      (map_trim_splitOn_blanks_append hu a) (hasArrow_append_blanks hv b) (trim_append_blanks hv b)

theorem ofPlainLine_trim (line : List Char) :
    Directive.ofPlainLine (trim line) = .ofPlainLine line := by
  obtain ⟨u, v, hline, hu, hv⟩ := exists_eq_append_trim line
  conv_rhs => rw [hline]
  exact (ofPlainLine_append_of_blank hu hv _).symm

/-- Two lines with an arrow and without a label are read alike if they stand for the same
directive. -/
theorem readAlike_plain {a a' b b' : List Char} (h : ¬ Labelled (a ++ '-' :: '>' :: b))
    (h' : ¬ Labelled (a' ++ '-' :: '>' :: b'))
    (hdirective : Directive.ofPlainLine (a' ++ '-' :: '>' :: b') =
      .ofPlainLine (a ++ '-' :: '>' :: b)) :
    ReadAlike (a ++ '-' :: '>' :: b) (a' ++ '-' :: '>' :: b') := by
  have hne : ∀ x y, trim (x ++ '-' :: '>' :: y) ≠ [] := by
    intro x y hnil
    exact absurd (trim_eq_nil_iff.mp hnil '-' (by simp)) (by decide)
  have hno : ∀ {line}, ¬ Labelled line →
      Directive.ofLine (trim line) = .ofPlainLine line := by
    intro line hline
    rw [ofLine_of_no_label fun label hlabel hprefix => hline ⟨label, hlabel, hprefix⟩,
      ofPlainLine_trim]
  refine ⟨iff_of_false (hne a b) (hne a' b'), ?_⟩
  rw [hno h, hno h', hdirective]

/-! ### Places for blanks -/

/-- Blanks that fit into a line. -/
def Spaces (s : List Char) : Prop :=
  ∀ c ∈ s, isBlank c = true ∧ c ≠ '\n'

-- given by name, because the search for an instance finds one that goes through all characters
instance (s : List Char) : Decidable (Spaces s) :=
  List.decidableBAll (fun c => isBlank c = true ∧ c ≠ '\n') s

theorem Spaces.isBlank {s : List Char} (h : Spaces s) : ∀ c ∈ s, isBlank c = true :=
  fun c hc => (h c hc).1

theorem Spaces.lineFeed_not_mem {s : List Char} (h : Spaces s) : '\n' ∉ s :=
  fun hmem => (h '\n' hmem).2 rfl

theorem Spaces.nil : Spaces [] :=
  List.forall_mem_nil _

/-- The second line is the first one with blanks put in one place where they have no meaning. -/
inductive Respaced : List Char → List Char → Prop where
  /-- At the ends of any line. -/
  | ends {u v : List Char} (line : List Char) (hu : Spaces u) (hv : Spaces v) :
    Respaced line (u ++ line ++ v)
  /-- Behind the colon of a label that the line begins with. -/
  | colon {w u label : List Char} (rest : List Char) (hw : ∀ c ∈ w, isBlank c = true)
    (hlabel : label ∈ labels) (hu : Spaces u) :
    Respaced (w ++ (label ++ rest)) (w ++ (label ++ (u ++ rest)))
  /-- Around a comma of a list. -/
  | listComma {w u v label : List Char} (a b : List Char) (hw : ∀ c ∈ w, isBlank c = true)
    (hlabel : label ∈ labels) (hlist : label ≠ startLabel) (hu : Spaces u) (hv : Spaces v) :
    Respaced (w ++ (label ++ (a ++ ',' :: b))) (w ++ (label ++ (a ++ u ++ ',' :: (v ++ b))))
  /-- Around an arrow of a line without a label. -/
  | arrow {u v : List Char} (a b : List Char) (h : ¬ Labelled (a ++ '-' :: '>' :: b))
    (hu : Spaces u) (hv : Spaces v) :
    Respaced (a ++ '-' :: '>' :: b) (a ++ u ++ '-' :: '>' :: (v ++ b))
  /-- Around a comma before the first arrow of a line without a label. -/
  | comma {u v : List Char} (a b c : List Char) (h : ¬ Labelled (a ++ ',' :: b ++ '-' :: '>' :: c))
    (hfirst : ¬ ['-', '>'] <:+: a ++ ',' :: b) (hu : Spaces u) (hv : Spaces v) :
    Respaced (a ++ ',' :: b ++ '-' :: '>' :: c) (a ++ u ++ ',' :: (v ++ b) ++ '-' :: '>' :: c)

section
variable {u v : List Char}

/-- Blanks around an arrow go to the texts before and after it, which are trimmed. -/
theorem readAlike_arrow {a b : List Char} (h : ¬ Labelled (a ++ '-' :: '>' :: b))
    (hu : Spaces u) (hv : Spaces v) :
    ReadAlike (a ++ '-' :: '>' :: b) (a ++ u ++ '-' :: '>' :: (v ++ b)) := by
  have hlabelled : ¬ Labelled (a ++ u ++ '-' :: '>' :: (v ++ b)) := by
    rw [labelled_append_cons_iff (by decide) dash_not_mem_label] at h ⊢
    rwa [labelled_congr (trim_append_blanks hu.isBlank a)]
  refine readAlike_plain h hlabelled ?_
  cases ha : hasArrow a with
  | false =>
    exact ofPlainLine_append_arrow_congr ha ((hasArrow_append_blanks hu.isBlank a).trans ha)
      (map_trim_splitOn_append_blanks hu.isBlank a) (hasArrow_blanks_append hv.isBlank b)
      (trim_blanks_append hv.isBlank b)
  | true =>
    -- another arrow stands before this one, so both lines are malformed
    obtain ⟨x, y, rfl, hx⟩ := exists_eq_append_arrow ha
    refine ofPlainLine_congr ?_ ?_
    · rw [hasArrow_append_arrow, hasArrow_append_arrow]
    · simp only [List.append_assoc, List.cons_append]
      rw [splitTransition_append_arrow hx, splitTransition_append_arrow hx,
        if_pos (hasArrow_append_arrow _ _), ← List.append_assoc, if_pos (hasArrow_append_arrow _ _)]

/-- Blanks around a comma go to the pieces before and after it, which are trimmed. -/
theorem readAlike_comma {a b c : List Char} (h : ¬ Labelled (a ++ ',' :: b ++ '-' :: '>' :: c))
    (hfirst : ¬ ['-', '>'] <:+: a ++ ',' :: b) (hu : Spaces u) (hv : Spaces v) :
    ReadAlike (a ++ ',' :: b ++ '-' :: '>' :: c)
      (a ++ u ++ ',' :: (v ++ b) ++ '-' :: '>' :: c) := by
  have hlabelled : ¬ Labelled (a ++ u ++ ',' :: (v ++ b) ++ '-' :: '>' :: c) := by
    rw [labelled_append_cons_iff (by decide) dash_not_mem_label,
      labelled_append_cons_iff (by decide) comma_not_mem_label] at h ⊢
    rwa [labelled_congr (trim_append_blanks hu.isBlank a)]
  have harrow : hasArrow (a ++ ',' :: b) = false := hasArrow_eq_false_iff.mpr hfirst
  have harrow' : hasArrow (a ++ u ++ ',' :: (v ++ b)) = false := by
    rw [hasArrow_append_cons (by decide) (by decide)] at harrow ⊢
    rw [hasArrow_append_blanks hu.isBlank, hasArrow_blanks_append hv.isBlank, harrow]
  exact readAlike_plain h hlabelled (ofPlainLine_append_arrow_congr harrow harrow'
    (map_trim_splitOn_comma hu.isBlank hv.isBlank a b) rfl rfl)

end

/-! ### Lines with more blanks -/

/-- **Blanks in one of these places have no meaning.** -/
theorem Respaced.readAlike {line line' : List Char} (h : Respaced line line') :
    ReadAlike line line' := by
  cases h with
  | ends line hu hv =>
    exact .of_trim_eq (trim_append_of_blank hu.isBlank hv.isBlank line).symm
  | colon rest hw hlabel hu =>
    refine .blanks_append hw (readAlike_label hlabel ?_ fun _ => ?_)
    · exact (tokens_blanks_append hu.isBlank rest).symm
    · exact (trim_blanks_append hu.isBlank rest).symm
  | listComma a b hw hlabel hlist hu hv =>
    refine .blanks_append hw (readAlike_label hlabel ?_ fun h => absurd h hlist)
    rw [tokens, tokens, map_trim_splitOn_comma hu.isBlank hv.isBlank]
  | arrow a b h hu hv => exact readAlike_arrow h hu hv
  | comma a b c h hfirst hu hv => exact readAlike_comma h hfirst hu hv

theorem Respaced.lineFeed_not_mem {line line' : List Char} (h : Respaced line line')
    (hline : '\n' ∉ line) : '\n' ∉ line' := by
  cases h with
  | ends line hu hv => simp [hline, hu.lineFeed_not_mem, hv.lineFeed_not_mem]
  | colon rest hw hlabel hu => simp_all [hu.lineFeed_not_mem]
  | listComma a b hw hlabel hlist hu hv => simp_all [hu.lineFeed_not_mem, hv.lineFeed_not_mem]
  | arrow a b h hu hv => simp_all [hu.lineFeed_not_mem, hv.lineFeed_not_mem]
  | comma a b c h hfirst hu hv => simp_all [hu.lineFeed_not_mem, hv.lineFeed_not_mem]

/-- The second line is the first one with blanks put in any number of places. -/
def Spaced (line line' : List Char) : Prop :=
  Relation.ReflTransGen Respaced line line'

theorem Spaced.readAlike {line line' : List Char} (h : Spaced line line') :
    ReadAlike line line' := by
  induction h with
  | refl => exact .refl line
  | tail _ hlast ih => exact ih.trans hlast.readAlike

theorem Spaced.lineFeed_not_mem {line line' : List Char} (h : Spaced line line')
    (hline : '\n' ∉ line) : '\n' ∉ line' := by
  induction h with
  | refl => exact hline
  | tail _ hlast ih => exact hlast.lineFeed_not_mem ih

end AutomatonKit.Description
