import Mathlib
import AutomatonKit.Proofs.Description.Meaning

/-!
# Skipped lines leave nothing behind

A line with a warning is skipped as a whole, unless it lists accepting states: of such a list only
the names with a warning are skipped.  `mend` takes out of a text what was skipped on the chosen
lines.  A skipped line becomes an empty one, and a list of accepting states keeps the names that
denote a state which is declared above it.

`read_mend`: the mended text gives the same automaton, column by column, and the warnings of the
other lines as they were.  For the proof both texts are read side by side.  A line with a warning has
no edits but those for the names that are kept (`editsOn_mendedLine`), and it declares no state; so
both readings have the same automaton and the same names after each line (`MendedBy`), and a later
line cannot tell them apart.
-/

namespace AutomatonKit.Description

open Text Reading

/-! ### Mending a text -/

/-- The numbers of the lines with a warning. -/
def warnedLines (text : String) : Finset Nat :=
  ((read text).warnings.map Warning.line).toFinset

theorem mem_warnedLines_iff {text : String} {number : Nat} :
    number ∈ warnedLines text ↔ ∃ w ∈ (read text).warnings, w.line = number := by
  rw [warnedLines, List.mem_toFinset, List.mem_map]

/-- What is left of a line with a warning, where states are declared with the given names above it:
the names of a list of accepting states that denote a state, and nothing of another line. -/
def mendedLine (declared : List String) (line : List Char) : List Char :=
  match afterLabel acceptingLabel (trim line) with
  | some list =>
    acceptingLabel ++ ' ' :: List.intercalate [',', ' ']
      ((tokens list).filter fun name => (denoted? declared (String.ofList name)).isSome)
  | none => []

/-- Lines, numbered from `number`, with the chosen ones mended. -/
def mendLines (chosen : Finset Nat) (declared : List String) (number : Nat) :
    List (List Char) → List (List Char)
  | [] => []
  | line :: rest =>
    (if number ∈ chosen then mendedLine declared line else line) ::
      mendLines chosen (declared ++ declaresOn (trim line)) (number + 1) rest

/-- The text with the chosen lines mended. -/
def mend (chosen : Finset Nat) (text : String) : String :=
  String.ofList (List.intercalate ['\n'] (mendLines chosen [] 1 (splitOn '\n' text.toList)))

/-! ### The lines of a mended text -/

theorem lineFeed_not_mem_mendedLine (declared : List String) {line : List Char}
    (h : '\n' ∉ line) : '\n' ∉ mendedLine declared line := by
  unfold mendedLine
  cases hlist : afterLabel acceptingLabel (trim line) with
  | none => simp
  | some list =>
    have htrim : trim line = acceptingLabel ++ list := afterLabel_eq_some_iff.mp hlist
    have hsub : list ⊆ line := by
      intro c hc
      have hmem : c ∈ trim line := htrim ▸ List.mem_append_right _ hc
      exact (trim_isInfix line).subset hmem
    dsimp only
    rw [List.mem_append, List.mem_cons, not_or, not_or]
    refine ⟨lineFeed_not_mem_label acceptingLabel (by decide), by decide, fun hmem => ?_⟩
    rcases mem_intercalate hmem with hmem | ⟨name, hname, hmem⟩
    · exact absurd hmem (by decide)
    · obtain ⟨-, -, -, hname⟩ := of_mem_tokens (List.mem_filter.mp hname).1
      exact h (hsub (hname hmem))

theorem lineFeed_not_mem_mendLines (chosen : Finset Nat) (declared : List String) (number : Nat)
    {lines : List (List Char)} (h : ∀ line ∈ lines, '\n' ∉ line) :
    ∀ line ∈ mendLines chosen declared number lines, '\n' ∉ line := by
  induction lines generalizing declared number with
  | nil => simp [mendLines]
  | cons line lines ih =>
    obtain ⟨hline, hlines⟩ := List.forall_mem_cons.mp h
    rw [mendLines]
    refine List.forall_mem_cons.mpr ⟨?_, ih _ _ hlines⟩
    split
    · exact lineFeed_not_mem_mendedLine declared hline
    · exact hline

/-- The lines of a mended text are the mended lines, so the numbers of the lines stay. -/
theorem splitOn_mend (chosen : Finset Nat) (text : String) :
    splitOn '\n' (mend chosen text).toList =
      mendLines chosen [] 1 (splitOn '\n' text.toList) := by
  have hlines : ∀ line ∈ splitOn '\n' text.toList, '\n' ∉ line :=
    fun line hline => (of_mem_splitOn hline).1
  have hne : splitOn '\n' text.toList ≠ [] := by
    rw [splitOn_eq]
    exact List.splitOn_ne_nil _ _
  have hne' : mendLines chosen [] 1 (splitOn '\n' text.toList) ≠ [] := by
    cases h : splitOn '\n' text.toList with
    | nil => exact absurd h hne
    | cons line lines => simp [mendLines]
  rw [mend, String.toList_ofList, splitOn_eq]
  exact List.splitOn_intercalate '\n' (lineFeed_not_mem_mendLines chosen [] 1 hlines) hne'

/-! ### One line -/

/-- A directive with a cause is skipped as a whole, unless it is a list of accepting states. -/
theorem Names.edits_eq_nil {names : Names} {directive : Directive}
    (hcauses : names.causes directive ≠ [])
    (haccepting : ∀ accepted, directive ≠ .accepting accepted) : names.edits directive = [] := by
  cases directive with
  | states declared => exact absurd rfl hcauses
  | alphabet symbols => exact absurd rfl hcauses
  | start name =>
    cases h : names.resolve name with
    | none => simp [Names.edits, h]
    | some id => simp [Names.causes, h] at hcauses
  | accepting accepted => exact absurd rfl (haccepting accepted)
  | transition source symbol target =>
    cases h : names.resolveTransition source symbol target with
    | ok t => simp [Names.causes, h] at hcauses
    | error cause => simp [Names.edits, h]
  | malformedTransition => rfl
  | unrecognized => rfl

/-- An unknown accepting state is the cause exactly if the directive makes states accepting. -/
theorem Names.exists_eq_accepting_iff {names : Names} {directive : Directive} {cause : Cause}
    (h : cause ∈ names.causes directive) :
    (∃ accepted, directive = .accepting accepted) ↔ ∃ name, cause = .unknownAccepting name := by
  cases directive with
  | states declared => exact absurd h List.not_mem_nil
  | alphabet symbols => exact absurd h List.not_mem_nil
  | start name =>
    have hcause : cause = .unknownStart name := by
      simp only [Names.causes] at h
      split at h
      · exact List.mem_singleton.mp h
      · exact absurd h List.not_mem_nil
    simp [hcause]
  | accepting accepted =>
    obtain ⟨name, -, rfl⟩ := List.mem_map.mp h
    simp
  | transition source symbol target =>
    cases hedge : names.resolveTransition source symbol target with
    | ok t => simp [Names.causes, hedge] at h
    | error reason =>
      obtain rfl : cause = reason := by simpa [Names.causes, hedge] using h
      have hne : ∀ name, cause ≠ .unknownAccepting name := by
        rintro name rfl
        unfold Names.resolveTransition at hedge
        repeat' split at hedge
        all_goals simp at hedge
      simp [hne]
  | malformedTransition => simp [List.mem_singleton.mp h]
  | unrecognized => simp [List.mem_singleton.mp h]

variable {names : Names} {declared : List String} {line : List Char}

/-- A line that is skipped, or of which a name is skipped, declares no state. -/
theorem ofLine_ne_states_of_causesOn (h : names.causesOn line ≠ []) (ds : List String) :
    Directive.ofLine (trim line) ≠ .states ds := by
  intro hline
  refine h ?_
  unfold Names.causesOn
  split
  · rfl
  · rw [hline]
    rfl

/-- A list of accepting states keeps the names that denote a state. -/
theorem ofLine_mendedLine (declared : List String) {list : List Char}
    (h : trim line = acceptingLabel ++ list) :
    trim (mendedLine declared line) ≠ [] ∧
      Directive.ofLine (trim (mendedLine declared line)) =
        .accepting ((Description.names list).filter fun name =>
          (denoted? declared name).isSome) := by
  have hmended : mendedLine declared line = acceptingLabel ++ ' ' :: List.intercalate [',', ' ']
      ((tokens list).filter fun name => (denoted? declared (String.ofList name)).isSome) := by
    rw [mendedLine, h, afterLabel_append]
  have htokens : ∀ name ∈ (tokens list).filter fun name =>
      (denoted? declared (String.ofList name)).isSome, name ≠ [] ∧ trim name = name ∧ ',' ∉ name := by
    intro name hname
    obtain ⟨hne, htrim, hcomma, -⟩ := of_mem_tokens (List.mem_filter.mp hname).1
    exact ⟨hne, htrim, hcomma⟩
  have hlabel : acceptingLabel ∈ labels := by decide
  rw [hmended]
  constructor
  · rw [trim_label_append hlabel]
    exact fun hnil => label_ne_nil _ hlabel (List.append_eq_nil_iff.mp hnil).1
  · rw [ofLine_trim_label hlabel, (ofLine_label _).2.2.2, Description.names, Description.names,
      tokens_intercalate (fun name hname => (htokens name hname).2.2)
        (fun name hname => (htokens name hname).2.1) fun name hname => (htokens name hname).1,
      List.filter_map]
    rfl

/-- Where a line has a warning, nothing happens on it but what is left of it. -/
theorem editsOn_mendedLine (hnames : ∀ name, names.resolve name = denoted? declared name)
    (hcauses : names.causesOn line ≠ []) :
    names.editsOn (mendedLine declared line) = names.editsOn line ∧
      names.causesOn (mendedLine declared line) = [] ∧
      ∀ ds, Directive.ofLine (trim (mendedLine declared line)) ≠ .states ds := by
  by_cases haccepting : acceptingLabel <+: trim line
  · obtain ⟨list, hlist⟩ := haccepting
    obtain ⟨hne, hline⟩ := ofLine_mendedLine declared hlist.symm
    have hkept : ∀ name ∈ (Description.names list).filter fun name =>
        (denoted? declared name).isSome, (names.resolve name).isSome = true := by
      intro name hname
      rw [hnames]
      exact (List.mem_filter.mp hname).2
    refine ⟨?_, ?_, fun ds => ?_⟩
    · -- a name that denotes no state has no edit
      rw [Names.editsOn, Names.editsOn, hline, ← hlist, (ofLine_label list).2.2.2]
      simp only [Names.edits, List.filterMap_filter]
      congr 1
      refine List.filterMap_congr fun name _ => ?_
      rw [← hnames]
      cases names.resolve name <;> rfl
    · rw [Names.causesOn, if_neg hne, hline]
      simp only [Names.causes]
      rw [List.map_eq_nil_iff, List.filter_eq_nil_iff]
      intro name hname
      simp [Option.isSome_iff_ne_none.mp (hkept name hname)]
    · rw [hline]
      simp
  · have hmended : mendedLine declared line = [] := by
      rw [mendedLine, afterLabel_eq_none_iff.mpr haccepting]
    have hskipped : names.editsOn line = [] := by
      refine Names.edits_eq_nil (fun hnil => hcauses ?_) fun accepted hline =>
        haccepting (exists_ofLine_eq_accepting_iff.mp ⟨accepted, hline⟩)
      rw [Names.causesOn, hnil, ite_self]
    have hblank : Directive.ofLine (trim []) = .unrecognized := rfl
    rw [hmended, hskipped, hblank]
    exact ⟨rfl, rfl, by simp⟩

/-! ### Reading both texts side by side -/

/-- What was read of a text and what was read of the mended one: the same automaton and the same
names, and no warnings on the chosen lines. -/
structure Reading.MendedBy (chosen : Finset Nat) (r r' : Reading) : Prop where
  automaton_eq : r'.automaton = r.automaton
  names_eq : r'.names = r.names
  warnings_eq : r'.warnings = r.warnings.filter fun w => w.line ∉ chosen

namespace Reading.MendedBy

variable {chosen : Finset Nat} {r r' : Reading} {number : Nat}

theorem readLine_of_not_mem (h : MendedBy chosen r r') (hnumber : number ∉ chosen)
    (line : List Char) :
    MendedBy chosen (r.readLine (line, number)) (r'.readLine (line, number)) where
  automaton_eq := by
    rw [automaton_readLine, automaton_readLine, h.automaton_eq, h.names_eq]
  names_eq := names_readLine_congr h.automaton_eq h.names_eq line number
  warnings_eq := by
    rw [warnings_readLine, warnings_readLine, h.warnings_eq, h.names_eq, List.filter_append]
    congr 1
    symm
    rw [List.filter_eq_self]
    refine List.forall_mem_map.mpr fun cause _ => ?_
    simpa using hnumber

theorem readLine_of_mem (h : MendedBy chosen r r') (hagree : r.NamesAgree)
    (hnumber : number ∈ chosen) (hcauses : r.names.causesOn line ≠ []) :
    MendedBy chosen (r.readLine (line, number))
      (r'.readLine (mendedLine r.declared line, number)) := by
  obtain ⟨hedits, hnone, hstates⟩ := editsOn_mendedLine hagree hcauses
  refine ⟨?_, ?_, ?_⟩
  · rw [automaton_readLine, automaton_readLine, h.automaton_eq, h.names_eq, hedits]
  · rw [names_readLine_of_not_states r number (ofLine_ne_states_of_causesOn hcauses),
      names_readLine_of_not_states r' number hstates, h.names_eq]
  · have hfilter : ((r.names.causesOn line).map fun cause =>
        (⟨number, String.ofList (trim line), cause⟩ : Warning)).filter
          (fun w => w.line ∉ chosen) = [] := by
      rw [List.filter_eq_nil_iff]
      refine List.forall_mem_map.mpr fun cause _ => ?_
      simpa using hnumber
    rw [warnings_readLine, warnings_readLine, h.warnings_eq, h.names_eq, hnone, List.filter_append,
      hfilter]
    rfl

/-- **All lines.**  The lines from `number` on are read side by side, and each chosen one of them has
a warning. -/
theorem foldl_readLine (h : MendedBy chosen r r') (hagree : r.NamesAgree)
    (lines : List (List Char)) (hbefore : ∀ w ∈ r.warnings, w.line < number)
    (hchosen : ∀ n ∈ chosen, number ≤ n →
      ∃ w ∈ ((lines.zipIdx number).foldl readLine r).warnings, w.line = n) :
    MendedBy chosen ((lines.zipIdx number).foldl readLine r)
      (((mendLines chosen r.declared number lines).zipIdx number).foldl readLine r') := by
  induction lines generalizing r r' number with
  | nil => exact h
  | cons line lines ih =>
    have hdeclared : (r.readLine (line, number)).declared = r.declared ++ declaresOn (trim line) :=
      declared_readLine r line number
    obtain ⟨later, hlater, hmem⟩ := exists_warnings_foldl_readLine (r.readLine (line, number))
      (lines.zipIdx (number + 1))
    have hstep : MendedBy chosen (r.readLine (line, number))
        (r'.readLine (if number ∈ chosen then mendedLine r.declared line else line, number)) := by
      by_cases hnumber : number ∈ chosen
      · rw [if_pos hnumber]
        refine h.readLine_of_mem hagree hnumber fun hnil => ?_
        -- the warning with this number comes neither from an earlier line nor from a later one
        obtain ⟨w, hw, hline⟩ := hchosen number hnumber le_rfl
        rw [List.zipIdx_cons, List.foldl_cons, hlater, warnings_readLine, hnil, List.map_nil,
          List.append_nil] at hw
        rcases List.mem_append.mp hw with hw | hw
        · exact absurd hline (Nat.ne_of_lt (hbefore w hw))
        · obtain ⟨line', -, hline', -⟩ := hmem w hw
          have hle := (List.mem_zipIdx hline').1
          omega
      · rw [if_neg hnumber]
        exact h.readLine_of_not_mem hnumber line
    rw [mendLines, List.zipIdx_cons, List.zipIdx_cons, List.foldl_cons, List.foldl_cons, ← hdeclared]
    refine ih hstep (hagree.readLine line number) (fun w hw => ?_) fun n hn hle => ?_
    · rw [warnings_readLine] at hw
      rcases List.mem_append.mp hw with hw | hw
      · exact Nat.lt_succ_of_lt (hbefore w hw)
      · obtain ⟨cause, -, rfl⟩ := List.mem_map.mp hw
        exact Nat.lt_succ_self number
    · exact hchosen n hn (Nat.le_of_succ_le hle)

end Reading.MendedBy

/-! ### The whole text -/

theorem mendedBy_read {text : String} {chosen : Finset Nat} (h : chosen ⊆ warnedLines text) :
    Reading.MendedBy chosen (read text) (read (mend chosen text)) := by
  have hread : ∀ t : String,
      read t = ((splitOn '\n' t.toList).zipIdx 1).foldl readLine .empty := fun _ => rfl
  rw [hread (mend chosen text), splitOn_mend]
  refine Reading.MendedBy.foldl_readLine (r := .empty) ⟨rfl, rfl, rfl⟩ (fun _ => rfl) _
    (fun w hw => absurd hw List.not_mem_nil) fun n hn _ => ?_
  exact mem_warnedLines_iff.mp (h hn)

/-- **Skipped lines leave nothing behind.**  The first part says which lines these are: a warning has
the number and the text of its line, and it is about a name of a list of accepting states exactly if
the line has the label of these.  Take any lines with a warning and mend them: the automaton is the
same, and the warnings are those of the other lines, with the same numbers.  If all of them are
mended, there are no warnings left. -/
theorem read_mend (text : String) :
    (∀ w ∈ (read text).warnings, ∃ line, (line, w.line) ∈ numberedLines text.toList ∧
      w.text = String.ofList (trim line) ∧
      (acceptingLabel <+: trim line ↔ ∃ name, w.cause = .unknownAccepting name)) ∧
    (∀ chosen ⊆ warnedLines text,
      (read (mend chosen text)).automaton = (read text).automaton ∧
        (read (mend chosen text)).warnings =
          (read text).warnings.filter fun w => w.line ∉ chosen) ∧
    (read (mend (warnedLines text) text)).automaton = (read text).automaton ∧
      (read (mend (warnedLines text) text)).isClean = true := by
  refine ⟨fun w hw => ?_, fun chosen h => ?_, ?_, ?_⟩
  · obtain ⟨added, hadded, hmem⟩ := exists_warnings_foldl_readLine .empty
      (numberedLines text.toList)
    have hw : w ∈ added := by
      rw [read, readChars, hadded] at hw
      exact hw
    obtain ⟨line, names, hline, htext, hcause⟩ := hmem w hw
    refine ⟨line, hline, htext, ?_⟩
    unfold Names.causesOn at hcause
    split at hcause
    · exact absurd hcause List.not_mem_nil
    · rw [← exists_ofLine_eq_accepting_iff]
      exact Names.exists_eq_accepting_iff hcause
  · have hmended := mendedBy_read h
    exact ⟨hmended.automaton_eq, hmended.warnings_eq⟩
  · exact (mendedBy_read (Finset.Subset.refl _)).automaton_eq
  · have hwarnings := (mendedBy_read (Finset.Subset.refl (warnedLines text))).warnings_eq
    rw [isClean, List.isEmpty_iff, hwarnings, List.filter_eq_nil_iff]
    intro w hw
    simpa using mem_warnedLines_iff.mpr ⟨w, hw, rfl⟩

/-- A text with a warning of each kind.  The state `c` is declared too late for three of its lines. -/
def scrapText : String :=
  "States: a, b\nStart state: c\nAccept states: z, B,, y\nnonsense\na -> b\nc, x -> a\n" ++
    "a, x -> c\na,-> b\nStates: c\nStart state: a\na, y -> b"

/-- Some of the lines of `scrapText` are mended, one of which keeps the name of a state. -/
theorem read_mend_scrapText :
    ({3, 5, 7} : Finset Nat) ⊆ warnedLines scrapText ∧
      mend {3, 5, 7} scrapText = "States: a, b\nStart state: c\nAccept states: B\nnonsense\n\n" ++
        "c, x -> a\n\na,-> b\nStates: c\nStart state: a\na, y -> b" ∧
      (read (mend {3, 5, 7} scrapText)).automaton = (read scrapText).automaton := by
  have hchosen : ({3, 5, 7} : Finset Nat) ⊆ warnedLines scrapText := by decide +kernel
  exact ⟨hchosen, by decide +kernel, ((read_mend scrapText).2.1 _ hchosen).1⟩

end AutomatonKit.Description
