import Mathlib
import AutomatonKit.Description.Writer
import AutomatonKit.Proofs.Description.TransitionForm

/-!
# Written lines are read as they are meant

`PlainName` is what a name needs so that every line which mentions it is read back as it was
written.  For lists of plain names and for transitions between states with plain names, the lines of
`Description.Writer` are trimmed, do not contain a line feed, and stand for the directive that the
writer has in mind: `ofLine_label` and `ofLine_edgeLine`.
-/

namespace AutomatonKit.Description

open Text

/-! ### Labels -/

def labels : List (List Char) :=
  [statesLabel, alphabetLabel, startLabel, acceptingLabel]

theorem eq_of_label_prefix_label : ∀ a ∈ labels, ∀ b ∈ labels, a <+: b → a = b := by decide

theorem comma_not_mem_label : ∀ label ∈ labels, ',' ∉ label := by decide

theorem lineFeed_not_mem_label : ∀ label ∈ labels, '\n' ∉ label := by decide

theorem trim_label : ∀ label ∈ labels, trim label = label := by decide

theorem label_ne_nil : ∀ label ∈ labels, label ≠ [] := by decide

/-- A line begins with at most one label. -/
theorem afterLabel_label {a b : List Char} (ha : a ∈ labels) (hb : b ∈ labels) (rest : List Char) :
    afterLabel a (b ++ rest) = if a = b then some rest else none := by
  split
  · next hab => rw [hab, afterLabel_append]
  · next hab =>
    rw [afterLabel_eq_none_iff]
    intro h
    rcases List.prefix_or_prefix_of_prefix h (List.prefix_append b rest) with h | h
    · exact hab (eq_of_label_prefix_label a ha b hb h)
    · exact hab (eq_of_label_prefix_label b hb a ha h).symm

/-- The directive of a labelled line, given what follows each label. -/
theorem ofLine_label (rest : List Char) :
    Directive.ofLine (statesLabel ++ rest) = .states (names rest) ∧
      Directive.ofLine (alphabetLabel ++ rest) = .alphabet (symbols rest) ∧
      Directive.ofLine (startLabel ++ rest) = .start (String.ofList (trim rest)) ∧
      Directive.ofLine (acceptingLabel ++ rest) = .accepting (names rest) := by
  have h (a : List Char) (ha : a ∈ labels) (b : List Char) (hb : b ∈ labels) :=
    afterLabel_label ha hb rest
  unfold Directive.ofLine
  refine ⟨?_, ?_, ?_, ?_⟩
  · rw [h statesLabel (by decide) statesLabel (by decide)]
    rfl
  · rw [h statesLabel (by decide) alphabetLabel (by decide),
      h alphabetLabel (by decide) alphabetLabel (by decide)]
    rfl
  · rw [h statesLabel (by decide) startLabel (by decide),
      h alphabetLabel (by decide) startLabel (by decide),
      h startLabel (by decide) startLabel (by decide)]
    rfl
  · rw [h statesLabel (by decide) acceptingLabel (by decide),
      h alphabetLabel (by decide) acceptingLabel (by decide),
      h startLabel (by decide) acceptingLabel (by decide),
      h acceptingLabel (by decide) acceptingLabel (by decide)]
    rfl

/-- A labelled line loses at most blanks at its end when it is trimmed. -/
theorem trim_label_append {label : List Char} (hlabel : label ∈ labels) (rest : List Char) :
    trim (label ++ rest) = label ++ trimEnd rest := by
  obtain ⟨v, hrest, hv⟩ := exists_eq_append_trimEnd rest
  have hblanks : trim (label ++ rest) = trim (label ++ trimEnd rest) := by
    conv_lhs => rw [hrest, ← List.append_assoc]
    exact trim_append_blanks hv _
  obtain ⟨hhead, hlast⟩ := trim_eq_self_iff.mp (trim_label label hlabel)
  rw [hblanks, trim_eq_self_iff, List.head?_append_of_ne_nil _ (label_ne_nil label hlabel)]
  refine ⟨hhead, ?_⟩
  by_cases hnil : trimEnd rest = []
  · rw [hnil, List.append_nil]
    exact hlast
  · rw [List.getLast?_append_of_ne_nil _ hnil]
    exact trimEnd_eq_self_iff.mp (trimEnd_trimEnd rest)

/-- The directive of a labelled line depends on the items in it, and on the whole of it only where it
chooses the start state. -/
theorem ofLine_label_congr {label rest rest' : List Char} (hlabel : label ∈ labels)
    (htokens : tokens rest = tokens rest') (htrim : label = startLabel → trim rest = trim rest') :
    Directive.ofLine (label ++ rest) = Directive.ofLine (label ++ rest') := by
  have hlabel' : label = statesLabel ∨ label = alphabetLabel ∨ label = startLabel ∨
      label = acceptingLabel := by
    simpa [labels] using hlabel
  obtain ⟨hstates, halphabet, hstart, haccepting⟩ := ofLine_label rest
  obtain ⟨hstates', halphabet', hstart', haccepting'⟩ := ofLine_label rest'
  rcases hlabel' with rfl | rfl | rfl | rfl
  · rw [hstates, hstates', names, names, htokens]
  · rw [halphabet, halphabet', symbols, symbols, htokens]
  · rw [hstart, hstart', htrim rfl]
  · rw [haccepting, haccepting', names, names, htokens]

/-- **Blanks at the end of a labelled line do not matter.** -/
theorem ofLine_trim_label {label : List Char} (hlabel : label ∈ labels) (rest : List Char) :
    Directive.ofLine (trim (label ++ rest)) = Directive.ofLine (label ++ rest) := by
  obtain ⟨v, hrest, hv⟩ := exists_eq_append_trimEnd rest
  have htokens : tokens (trimEnd rest) = tokens rest := by
    conv_rhs => rw [hrest]
    exact (tokens_append_blanks hv _).symm
  have htrim : trim (trimEnd rest) = trim rest := by
    conv_rhs => rw [hrest]
    exact (trim_append_blanks hv _).symm
  rw [trim_label_append hlabel, ofLine_label_congr hlabel htokens fun _ => htrim]

theorem ofLine_of_no_label {line : List Char} (h : ∀ label ∈ labels, ¬ label <+: line) :
    Directive.ofLine line = .ofPlainLine line := by
  have hnone : ∀ label ∈ labels, afterLabel label line = none :=
    fun label hlabel => afterLabel_eq_none_iff.mpr (h label hlabel)
  rw [Directive.ofLine, hnone statesLabel (by decide), hnone alphabetLabel (by decide),
    hnone startLabel (by decide), hnone acceptingLabel (by decide)]

/-- Only a line with the label declares states. -/
theorem ofLine_ne_states {line : List Char} (h : ¬ statesLabel <+: line) (declared : List String) :
    Directive.ofLine line ≠ .states declared := by
  intro hline
  unfold Directive.ofLine at hline
  rw [afterLabel_eq_none_iff.mpr h] at hline
  -- no other branch gives a list of states
  simp only [Directive.ofPlainLine] at hline
  repeat' split at hline
  all_goals exact nomatch hline

/-- Exactly the lines with the label make states accepting. -/
theorem exists_ofLine_eq_accepting_iff {line : List Char} :
    (∃ accepted, Directive.ofLine line = .accepting accepted) ↔ acceptingLabel <+: line := by
  constructor
  · rintro ⟨accepted, hline⟩
    by_contra h
    unfold Directive.ofLine at hline
    rw [afterLabel_eq_none_iff.mpr h] at hline
    simp only [Directive.ofPlainLine] at hline
    repeat' split at hline
    all_goals exact nomatch hline
  · rintro ⟨list, rfl⟩
    exact ⟨names list, (ofLine_label list).2.2.2⟩

/-! ### Plain names and symbols -/

/-- A name that every line which mentions it gives back. -/
@[mk_iff]
structure PlainName (name : List Char) : Prop where
  ne_nil : name ≠ []
  /-- It has no blanks at its ends. -/
  trim_eq : trim name = name
  no_comma : ',' ∉ name
  no_arrow : ¬ ['-', '>'] <:+: name
  no_lineFeed : '\n' ∉ name
  /-- It begins with no label. -/
  no_label : ∀ label ∈ labels, ¬ label <+: name

instance (name : List Char) : Decidable (PlainName name) :=
  decidable_of_iff' _ (plainName_iff name)

/-- A symbol that every line which mentions it gives back. -/
def PlainSymbol (c : Char) : Prop :=
  c ≠ ',' ∧ isBlank c = false

instance (c : Char) : Decidable (PlainSymbol c) :=
  inferInstanceAs (Decidable (_ ∧ _))

theorem PlainSymbol.ne_lineFeed {c : Char} (h : PlainSymbol c) : c ≠ '\n' := by
  rintro rfl
  exact absurd h.2 (by decide)

/-- An item of a list that is read back as it was written. -/
structure PlainItem (item : List Char) : Prop where
  ne_nil : item ≠ []
  trim_eq : trim item = item
  no_comma : ',' ∉ item
  no_lineFeed : '\n' ∉ item

theorem PlainName.plainItem {name : List Char} (h : PlainName name) : PlainItem name :=
  ⟨h.ne_nil, h.trim_eq, h.no_comma, h.no_lineFeed⟩

theorem PlainSymbol.plainItem {c : Char} (h : PlainSymbol c) : PlainItem [c] where
  ne_nil := by simp
  trim_eq := trim_singleton h.2
  no_comma := by simpa using h.1.symm
  no_lineFeed := by simpa using h.ne_lineFeed.symm

/-! ### Lists -/

variable {label : List Char} {items : List (List Char)}

theorem lineFeed_not_mem_listLine (hlabel : label ∈ labels)
    (hitems : ∀ item ∈ items, '\n' ∉ item) : ∀ line ∈ listLine label items, '\n' ∉ line := by
  intro line hline
  unfold listLine at hline
  split at hline
  · simp at hline
  · rw [List.mem_singleton.mp hline, List.mem_append, List.mem_cons, not_or, not_or]
    refine ⟨lineFeed_not_mem_label label hlabel, by decide, fun h => ?_⟩
    rcases mem_intercalate h with h | ⟨item, hitem, h⟩
    · exact absurd h (by decide)
    · exact hitems item hitem h

/-- A line that lists plain items is one trimmed line. -/
theorem trim_listLine (hlabel : label ∈ labels) (hitems : ∀ item ∈ items, PlainItem item) :
    ∀ line ∈ listLine label items, trim line = line ∧ line ≠ [] ∧ '\n' ∉ line := by
  intro line hline
  have hlineFeed := lineFeed_not_mem_listLine hlabel (fun item h => (hitems item h).no_lineFeed)
    line hline
  unfold listLine at hline
  split at hline
  · simp at hline
  · next hne =>
    rw [List.isEmpty_iff] at hne
    have hlast := hitems _ (List.getLast_mem hne)
    obtain ⟨m, hm⟩ := exists_intercalate_eq_append [',', ' '] hne
    obtain rfl := List.mem_singleton.mp hline
    refine ⟨?_, by simp, hlineFeed⟩
    rw [hm, ← List.cons_append, ← List.append_assoc]
    exact trim_append_append _ (trim_label label hlabel) hlast.trim_eq
      (label_ne_nil label hlabel) hlast.ne_nil

theorem tokens_of_plainItems (hitems : ∀ item ∈ items, PlainItem item) :
    tokens (' ' :: List.intercalate [',', ' '] items) = items :=
  tokens_intercalate (fun item h => (hitems item h).no_comma)
    (fun item h => (hitems item h).trim_eq) fun item h => (hitems item h).ne_nil

/-! ### Transitions -/

variable {source target : List Char} {c : Char}

def edgeLine (source : List Char) (c : Char) (target : List Char) : List Char :=
  source ++ [',', ' ', c, ' ', '-', '>', ' '] ++ target

theorem lineFeed_not_mem_edgeLine (hsource : '\n' ∉ source) (htarget : '\n' ∉ target)
    (hc : PlainSymbol c) : '\n' ∉ edgeLine source c target := by
  rw [edgeLine, List.mem_append, List.mem_append, not_or, not_or]
  refine ⟨⟨hsource, ?_⟩, htarget⟩
  simpa using hc.ne_lineFeed.symm

theorem trim_edgeLine (hsource : PlainName source) (htarget : PlainName target)
    (hc : PlainSymbol c) :
    trim (edgeLine source c target) = edgeLine source c target ∧ edgeLine source c target ≠ [] ∧
      '\n' ∉ edgeLine source c target :=
  ⟨trim_append_append _ hsource.trim_eq htarget.trim_eq hsource.ne_nil htarget.ne_nil,
    by simp [edgeLine], lineFeed_not_mem_edgeLine hsource.no_lineFeed htarget.no_lineFeed hc⟩

/-- No label begins the line of a transition: it would have to reach over the comma. -/
theorem not_label_prefix_edgeLine (hsource : ∀ label ∈ labels, ¬ label <+: source) :
    ∀ label ∈ labels, ¬ label <+: edgeLine source c target := by
  intro label hlabel h
  have hcomma : source ++ [','] <+: edgeLine source c target := by
    rw [edgeLine, List.append_assoc]
    exact (List.prefix_append_right_inj source).mpr (List.prefix_append [','] _)
  rcases List.prefix_or_prefix_of_prefix h hcomma with h | h
  · rcases List.prefix_concat_iff.mp h with h | h
    · exact comma_not_mem_label label hlabel (h ▸ by simp)
    · exact hsource label hlabel h
  · exact comma_not_mem_label label hlabel (h.subset (by simp))

/-- The parts of a transition are found again, without the blanks around them. -/
theorem splitTransition_edgeLine (hcomma : ',' ∉ source) (hsource : ¬ ['-', '>'] <:+: source)
    (htarget : ¬ ['-', '>'] <:+: target) (hc : PlainSymbol c) :
    splitTransition (edgeLine source c target) = some (trim source, [c], trim target) := by
  have hline : edgeLine source c target = (LineParts.mk source [c] target).spaced.line := by
    rw [LineParts.line_spaced]
    simp [edgeLine]
  have hproper : (LineParts.mk source [c] target).Proper :=
    ⟨hcomma, by simpa using hc.1.symm, hsource, fun h => absurd h.length_le (by simp), htarget⟩
  rw [hline, hproper.spaced.splitTransition_line, LineParts.trimmed_spaced, LineParts.trimmed,
    trim_singleton hc.2]

/-- The line of a transition is read as a transition between the names without the blanks around
them. -/
theorem ofLine_edgeLine_eq (hlabel : ∀ label ∈ labels, ¬ label <+: source) (hcomma : ',' ∉ source)
    (hsource : ¬ ['-', '>'] <:+: source) (htarget : ¬ ['-', '>'] <:+: target)
    (hc : PlainSymbol c) :
    Directive.ofLine (edgeLine source c target) =
      .transition (String.ofList (trim source)) (some c) (String.ofList (trim target)) := by
  have harrow : hasArrow (edgeLine source c target) = true := by
    rw [hasArrow_iff, edgeLine]
    exact ⟨source ++ [',', ' ', c, ' '], ' ' :: target, by simp⟩
  rw [ofLine_of_no_label (not_label_prefix_edgeLine hlabel), Directive.ofPlainLine, if_pos harrow,
    splitTransition_edgeLine hcomma hsource htarget hc]
  rfl

/-- **The line of a transition is read as this transition.** -/
theorem ofLine_edgeLine (hsource : PlainName source) (htarget : PlainName target)
    (hc : PlainSymbol c) :
    Directive.ofLine (edgeLine source c target) =
      .transition (String.ofList source) (some c) (String.ofList target) := by
  rw [ofLine_edgeLine_eq hsource.no_label hsource.no_comma hsource.no_arrow htarget.no_arrow hc,
    hsource.trim_eq, htarget.trim_eq]

end AutomatonKit.Description
