import Mathlib
import AutomatonKit.Proofs.Description.Layout
import AutomatonKit.Proofs.Description.RoundTrip
import AutomatonKit.Run.Basic

/-!
# Which automata are read back

The writer puts names down as they were declared, and the reader takes the blanks around them away.
`Automaton.trimNames` is what comes back: the automaton itself, with its names trimmed
(`read_write_eq_trimNames`).  Since no run looks at a name, it accepts the same inputs.

For this every name needs to be legible (`LegibleName`), and the trimmed names have to differ by
more than case (`IsLegible`).  `AvoidsExceptions` is the shorter list of conditions that goes with
the writer.  It leaves out what the reader does with blanks and line feeds, so it does not suffice:
`misread_despite_avoidsExceptions` has an automaton for each of the gaps.
-/

namespace AutomatonKit

open Text

/-! ### Runs and names -/

/-- The automaton with the blanks around the names of its states taken away. -/
def Automaton.trimNames (d : Automaton) : Automaton :=
  { d with states := d.states.map fun s => { s with name := String.ofList (trim s.name.toList) } }

/-- A run looks at the table and the accepting states, never at the states themselves. -/
theorem Run.accepts_with_states (run : Run) (d : Automaton) (states : List State)
    (w : List Char) : run.accepts { d with states } w = run.accepts d w := by
  induction w generalizing run with
  | nil => rfl
  | cons c w ih =>
    have hstep : run.step { d with states } c = run.step d c := rfl
    unfold Run.accepts
    rw [hstep]
    split
    · exact ih _
    · rfl

theorem Automaton.accepts_trimNames (d : Automaton) (w : List Char) :
    d.trimNames.accepts w = d.accepts w :=
  Run.accepts_with_states (Run.start d) d _ w

theorem Automaton.stateCount_trimNames (d : Automaton) : d.trimNames.stateCount = d.stateCount :=
  List.length_map ..

theorem Automaton.transitions_trimNames (d : Automaton) :
    d.trimNames.transitions = d.transitions := by
  unfold transitions ids
  rw [d.stateCount_trimNames]
  rfl

theorem Automaton.WellFormed.trimNames {d : Automaton} (h : d.WellFormed) :
    d.trimNames.WellFormed where
  length_table := by
    rw [d.stateCount_trimNames]
    exact h.length_table
  start_lt := by
    rw [d.stateCount_trimNames]
    exact h.start_lt
  mem_accepting_iff id := by
    -- the flags are those of the states before
    refine (h.mem_accepting_iff id).trans ?_
    show _ ↔ ∃ s : State, (d.states.map _)[id]? = some s ∧ s.accepting = true
    rw [List.getElem?_map]
    cases d.states[id]? <;> simp
  rowFits := by
    rw [d.stateCount_trimNames]
    exact h.rowFits

namespace Description

theorem nameOf_trimNames (d : Automaton) (id : StateId) :
    nameOf d.trimNames id = trim (nameOf d id) := by
  show (((d.states.map _)[id]?).map _).getD [] = trim ((d.states[id]?.map _).getD [])
  rw [List.getElem?_map]
  cases d.states[id]? with
  | none => rfl
  | some s => exact String.toList_ofList

theorem map_nameOf_trimNames (d : Automaton) (ids : List StateId) :
    ids.map (nameOf d.trimNames) = (ids.map (nameOf d)).map trim := by
  rw [List.map_map]
  exact List.map_congr_left fun id _ => nameOf_trimNames d id

theorem map_name_trimNames (d : Automaton) :
    d.trimNames.states.map (fun s => s.name.toList) =
      (d.states.map fun s => s.name.toList).map trim := by
  show (d.states.map _).map _ = _
  rw [List.map_map, List.map_map]
  exact List.map_congr_left fun s _ => String.toList_ofList

/-! ### Legible names -/

/-- A name that every line which mentions it gives back but for the blanks around it. -/
structure LegibleName (name : List Char) : Prop where
  /-- The name does not consist of blanks. -/
  not_blank : trim name ≠ []
  no_comma : ',' ∉ name
  no_arrow : ¬ ['-', '>'] <:+: name
  no_lineFeed : '\n' ∉ name
  /-- No label follows the blanks at the beginning. -/
  no_label : ∀ label ∈ labels, ¬ label <+: trim name

theorem LegibleName.plainName {name : List Char} (h : LegibleName name) :
    PlainName (trim name) where
  ne_nil := h.not_blank
  trim_eq := trim_trim name
  no_comma hmem := h.no_comma ((trim_isInfix name).subset hmem)
  no_arrow harrow := h.no_arrow (harrow.trans (trim_isInfix name))
  no_lineFeed hmem := h.no_lineFeed ((trim_isInfix name).subset hmem)
  no_label := h.no_label

/-- A label does not end with a blank, so blanks behind a name make no label of it. -/
theorem not_label_prefix_append_blanks {name v : List Char}
    (h : ∀ label ∈ labels, ¬ label <+: name) (hv : ∀ c ∈ v, isBlank c = true) :
    ∀ label ∈ labels, ¬ label <+: name ++ v := by
  intro label hlabel hprefix
  rcases List.prefix_or_prefix_of_prefix hprefix (List.prefix_append name v) with hname | hname
  · exact h label hlabel hname
  · obtain ⟨w, rfl⟩ := hname
    have hw : w <+: v := (List.prefix_append_right_inj name).mp hprefix
    have hnil : w = [] := by
      by_contra hne
      have hlast := (trim_eq_self_iff.mp (trim_label _ hlabel)).2
      rw [List.getLast?_append_of_ne_nil _ hne, List.getLast?_eq_some_getLast hne] at hlast
      have hblank := hv _ (hw.subset (List.getLast_mem hne))
      rw [hlast _ rfl] at hblank
      exact absurd hblank (by decide)
    rw [hnil, List.append_nil] at hlabel
    exact h name hlabel List.prefix_rfl

/-! ### Lines with legible names -/

/-- A line that lists items and one that lists them trimmed are read alike. -/
theorem readAlike_listLine {label : List Char} {items : List (List Char)} (hlabel : label ∈ labels)
    (hcomma : ∀ item ∈ items, ',' ∉ item) (hstart : label = startLabel → items.length ≤ 1) :
    List.Forall₂ ReadAlike (listLine label items) (listLine label (items.map trim)) := by
  have hcomma' : ∀ item ∈ items.map trim, ',' ∉ item :=
    List.forall_mem_map.mpr fun item hitem hmem =>
      hcomma item hitem ((trim_isInfix item).subset hmem)
  unfold listLine
  rw [List.isEmpty_map]
  split
  · exact .nil
  · refine .cons (readAlike_label hlabel ?_ fun h => ?_) .nil
    · rw [tokens_intercalate_eq hcomma, tokens_intercalate_eq hcomma', List.map_map]
      congr 1
      exact List.map_congr_left fun item _ => (trim_trim item).symm
    · match items, hstart h with
      | [], _ => rfl
      | [item], _ =>
        rw [List.map_singleton, List.intercalate_singleton, List.intercalate_singleton,
          trim_cons_of_blank isBlank_space, trim_cons_of_blank isBlank_space, trim_trim]

/-- The line of a transition loses the blanks at its ends when it is trimmed, and those inside of it
stay. -/
theorem exists_trim_edgeLine {source target : List Char} (c : Char) (hsource : trim source ≠ [])
    (htarget : trim target ≠ []) :
    ∃ u v, (∀ x ∈ u, isBlank x = true) ∧ (∀ x ∈ v, isBlank x = true) ∧
      trim source ++ u <:+: source ∧ v ++ trim target <:+: target ∧
      trim (edgeLine source c target) = edgeLine (trim source ++ u) c (v ++ trim target) := by
  obtain ⟨w, u, hs, hw, hu⟩ := exists_eq_append_trim source
  obtain ⟨v, w', ht, hv, hw'⟩ := exists_eq_append_trim target
  have hline : edgeLine source c target =
      w ++ edgeLine (trim source ++ u) c (v ++ trim target) ++ w' := by
    conv_lhs => rw [hs, ht]
    simp only [edgeLine, List.append_assoc]
  have hmiddle : edgeLine (trim source ++ u) c (v ++ trim target) =
      trim source ++ (u ++ [',', ' ', c, ' ', '-', '>', ' '] ++ v) ++ trim target := by
    simp only [edgeLine, List.append_assoc]
  refine ⟨u, v, hu, hv, ⟨w, [], ?_⟩, ⟨[], w', ht.symm⟩, ?_⟩
  · rw [List.append_nil, ← List.append_assoc, ← hs]
  · rw [hline, trim_append_of_blank hw hw', hmiddle]
    exact trim_append_append _ (trim_trim source) (trim_trim target) hsource htarget

theorem readAlike_edgeLine {source target : List Char} {c : Char} (hsource : LegibleName source)
    (htarget : LegibleName target) (hc : PlainSymbol c) :
    ReadAlike (edgeLine source c target) (edgeLine (trim source) c (trim target)) := by
  obtain ⟨u, v, hu, hv, hinSource, hinTarget, hline⟩ :=
    exists_trim_edgeLine c hsource.not_blank htarget.not_blank
  have htrimSource : trim (trim source ++ u) = trim source :=
    (trim_append_blanks hu _).trans (trim_trim source)
  have htrimTarget : trim (v ++ trim target) = trim target :=
    (trim_blanks_append hv _).trans (trim_trim target)
  obtain ⟨htrim, hne, -⟩ := trim_edgeLine hsource.plainName htarget.plainName hc
  rw [← htrim] at hne
  constructor
  · refine iff_of_false ?_ hne
    rw [hline]
    simp [edgeLine]
  · rw [hline, htrim, ofLine_edgeLine hsource.plainName htarget.plainName hc,
      ofLine_edgeLine_eq (not_label_prefix_append_blanks hsource.no_label hu)
        (fun hmem => hsource.no_comma (hinSource.subset hmem))
        (fun harrow => hsource.no_arrow (harrow.trans hinSource))
        (fun harrow => htarget.no_arrow (harrow.trans hinTarget)) hc,
      htrimSource, htrimTarget]

/-! ### The whole description -/

/-- What an automaton needs so that its description says what it accepts. -/
structure IsLegible (d : Automaton) : Prop where
  name : ∀ s ∈ d.states, LegibleName s.name.toList
  /-- No two names are the same up to case and the blanks around them. -/
  key : (d.states.map fun s => lowercase (trim s.name.toList)).Nodup
  symbol : ∀ c ∈ d.alphabet.symbols, PlainSymbol c

variable {d : Automaton}

theorem IsLegible.isPlain (h : IsLegible d) : IsPlain d.trimNames where
  name := by
    refine List.forall_mem_map.mpr fun s hs => ?_
    rw [String.toList_ofList]
    exact (h.name s hs).plainName
  key := by
    show ((d.states.map _).map _).Nodup
    rw [List.map_map]
    simpa only [Function.comp_def, String.toList_ofList] using h.key
  symbol := h.symbol

theorem IsLegible.legibleName (h : IsLegible d) {id : StateId} (hid : id < d.stateCount) :
    LegibleName (nameOf d id) := by
  rw [nameOf_eq (List.getElem?_eq_getElem hid)]
  exact h.name _ (List.getElem_mem hid)

/-- A line that lists states by their names. -/
theorem IsLegible.readAlike_listLine (h : IsLegible d) {label : List Char} {ids : List StateId}
    (hlabel : label ∈ labels) (hids : ∀ id ∈ ids, id < d.stateCount)
    (hstart : label = startLabel → ids.length ≤ 1) :
    List.Forall₂ ReadAlike (listLine label (ids.map (nameOf d)))
      (listLine label (ids.map (nameOf d.trimNames))) := by
  rw [map_nameOf_trimNames]
  refine Description.readAlike_listLine hlabel ?_ fun heq => ?_
  · exact List.forall_mem_map.mpr fun id hid => (h.legibleName (hids id hid)).no_comma
  · rw [List.length_map]
    exact hstart heq

theorem IsLegible.readAlike_writeLines (h : IsLegible d) (hd : d.WellFormed) :
    List.Forall₂ ReadAlike (writeLines d) (writeLines d.trimNames) := by
  have hstart : ∀ id ∈ d.start.toList, id < d.stateCount :=
    fun id hid => hd.start_lt id (Option.mem_toList.mp hid)
  unfold writeLines
  rw [map_name_trimNames, d.transitions_trimNames]
  refine List.rel_append (List.rel_append (List.rel_append (List.rel_append ?_ ?_) ?_) ?_) ?_
  · exact Description.readAlike_listLine (by decide)
      (List.forall_mem_map.mpr fun s hs => (h.name s hs).no_comma) fun heq => absurd heq (by decide)
  · exact List.forall₂_same.mpr fun line _ => .refl line
  · refine h.readAlike_listLine (by decide) hstart fun _ => ?_
    cases d.start <;> simp
  · exact h.readAlike_listLine (by decide) (fun id hid => hd.lt_of_mem_accepting hid)
      fun heq => absurd heq (by decide)
  · rw [List.forall₂_map_left_iff, List.forall₂_map_right_iff, List.forall₂_same]
    intro t ht
    have hedge := hd.mem_transitions_iff.mp ht
    obtain ⟨hp, hq⟩ := hd.lt_of_successor hedge
    show ReadAlike (edgeLine _ _ _) (edgeLine (nameOf d.trimNames _) _ (nameOf d.trimNames _))
    rw [nameOf_trimNames, nameOf_trimNames]
    exact readAlike_edgeLine (h.legibleName hp) (h.legibleName hq)
      (h.symbol _ (Automaton.mem_symbols_of_successor hedge))

/-- A description is read line by line, and nothing stands after its last line feed. -/
theorem readChars_writeChars_eq (h : ∀ line ∈ writeLines d, '\n' ∉ line) :
    readChars (writeChars d) = ((writeLines d ++ [[]]).zipIdx 1).foldl Reading.readLine .empty := by
  rw [readChars, numberedLines, writeChars, splitOn_flatMap_lines h]

theorem IsLegible.read_write_eq_trimNames (h : IsLegible d) (hd : d.WellFormed) :
    (read (write d)).automaton = d.trimNames ∧ (read (write d)).warnings = [] := by
  have hlineFeed := lineFeed_not_mem_writeLines hd (fun s hs => (h.name s hs).no_lineFeed) h.symbol
  have hlineFeed' := h.isPlain.lineFeed_not_mem hd.trimNames
  have hsame : (readChars (writeChars d)).SameButTexts (readChars (writeChars d.trimNames)) := by
    rw [readChars_writeChars_eq hlineFeed, readChars_writeChars_eq hlineFeed']
    exact (Reading.SameButTexts.refl _).foldl_readLine
      (List.rel_append (h.readAlike_writeLines hd) (.cons (.refl []) .nil)) 1
  obtain ⟨hautomaton, hwarnings⟩ := readChars_writeChars h.isPlain hd.trimNames
  have hnotes := hsame.notes_eq
  rw [hwarnings, List.map_nil, List.map_eq_nil_iff] at hnotes
  rw [read, write, String.toList_ofList, hsame.automaton_eq, hautomaton]
  exact ⟨Automaton.editAll_buildingEdits hd.trimNames, hnotes⟩

/-- **What is written accepts the same inputs when it is read back**, for a well-formed automaton
whose names are legible and still differ by more than case when they are trimmed, and whose symbols
are plain.  There is no warning, and nothing is lost but the blanks around the names. -/
theorem accepts_read_write (d : Automaton) (hd : d.violation? = none) (h : IsLegible d) :
    (∀ w, (read (write d)).automaton.accepts w = d.accepts w) ∧
      (read (write d)).automaton = d.trimNames ∧ (read (write d)).isClean = true := by
  rw [Automaton.violation?_eq_none_iff] at hd
  obtain ⟨hautomaton, hwarnings⟩ := h.read_write_eq_trimNames hd
  refine ⟨fun w => ?_, hautomaton, ?_⟩
  · rw [hautomaton, d.accepts_trimNames]
  · rw [Reading.isClean, hwarnings]
    rfl

/-- A gate whose names have blanks at their ends and inside. -/
def paddedGate : Automaton where
  states := [{ name := " gate shut" }, { name := "open\t", accepting := true }]
  alphabet := .ofList ['k']
  table := [[some 1], [some 0]]
  start := some 0
  accepting := .ofList [1]

/-- The names of `paddedGate` come back without the blanks, and it opens as before. -/
theorem accepts_read_write_paddedGate :
    paddedGate.violation? = none ∧ IsLegible paddedGate ∧
      (read (write paddedGate)).automaton.accepts ['k'] = true := by
  have hd : paddedGate.violation? = none := by decide
  have hname : ∀ s ∈ paddedGate.states, LegibleName s.name.toList := by
    intro s hs
    rcases List.mem_pair.mp hs with rfl | rfl <;>
      exact ⟨by decide +kernel, by decide +kernel, by decide +kernel, by decide +kernel,
        by decide +kernel⟩
  have hsymbol : ∀ c ∈ paddedGate.alphabet.symbols, PlainSymbol c := by
    intro c hc
    rw [List.mem_singleton.mp hc]
    decide
  have h : IsLegible paddedGate := ⟨hname, by decide +kernel, hsymbol⟩
  refine ⟨hd, h, ?_⟩
  rw [(accepts_read_write paddedGate hd h).1]
  decide

/-! ### The exceptions that go with the writer -/

/-- An automaton to which none of the exceptions applies that the writer names: it says nothing
about blanks and line feeds. -/
structure AvoidsExceptions (d : Automaton) : Prop where
  no_comma : ∀ s ∈ d.states, ',' ∉ s.name.toList
  no_arrow : ∀ s ∈ d.states, ¬ ['-', '>'] <:+: s.name.toList
  no_label : ∀ s ∈ d.states, ∀ label ∈ labels, ¬ label <+: s.name.toList
  key : (d.states.map fun s => lowercase s.name.toList).Nodup
  symbol : ∀ c ∈ d.alphabet.symbols, PlainSymbol c

/-- Nothing is left of an empty name, so its state is not declared. -/
def unnamed : Automaton :=
  Automaton.empty.editAll [.addState { name := "" }, .setStart 0, .addAccepting 0]

/-- Two names are taken for each other when a blank is all that tells them apart. -/
def twins : Automaton :=
  Automaton.empty.editAll
    [.addState { name := "a" }, .addState { name := " a" }, .setStart 0, .addAccepting 1]

/-- A name with a line feed tears its line in two. -/
def torn : Automaton :=
  Automaton.empty.editAll
    [.addState { name := "a\nb" }, .setStart 0, .addAccepting 0, .addTransition 0 'x' 0]

/-- A label that stands behind a blank begins the line when the blank is gone. -/
def disguised : Automaton :=
  Automaton.empty.editAll
    [.addState { name := " Alphabet: a" }, .setStart 0, .addAccepting 0, .addTransition 0 'x' 0]

/-- Automata that edits build and to which none of the exceptions applies accept other inputs when
they are read back. -/
theorem misread_despite_avoidsExceptions :
    (AvoidsExceptions unnamed ∧ unnamed.accepts [] = true ∧
      (read (write unnamed)).automaton.accepts [] = false) ∧
    (AvoidsExceptions twins ∧ twins.accepts [] = false ∧
      (read (write twins)).automaton.accepts [] = true) ∧
    (AvoidsExceptions torn ∧ torn.accepts ['x'] = true ∧
      (read (write torn)).automaton.accepts ['x'] = false) ∧
    (AvoidsExceptions disguised ∧ disguised.accepts ['x'] = true ∧
      (read (write disguised)).automaton.accepts ['x'] = false) := by
  have hx : ∀ c ∈ ['x'], PlainSymbol c := by
    intro c hc
    rw [List.mem_singleton.mp hc]
    decide
  refine ⟨⟨⟨?_, ?_, ?_, ?_, List.forall_mem_nil _⟩, ?_, ?_⟩,
    ⟨⟨?_, ?_, ?_, ?_, List.forall_mem_nil _⟩, ?_, ?_⟩, ⟨⟨?_, ?_, ?_, ?_, hx⟩, ?_, ?_⟩,
    ⟨⟨?_, ?_, ?_, ?_, hx⟩, ?_, ?_⟩⟩
  all_goals decide +kernel

end Description

end AutomatonKit
