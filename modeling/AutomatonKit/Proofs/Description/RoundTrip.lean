import Mathlib
import AutomatonKit.Proofs.Description.Sections

/-!
# Reading what was written

`read_write`: an automaton with plain names and symbols, no two of whose names differ only by case,
is read back from its description without a warning, down to the columns and row lengths.

`Yields names lines edits` says that lines are read without a warning where names are resolved by
`names`, and that what they ask for are `edits`; it is `Asks` for lines of which nothing is skipped.
The lines after the first one of a description yield the building edits of the automaton except the
registration of its states, which is what the first line asks for.  So reading performs the building
edits, and `editAll_buildingEdits` applies.
-/

namespace AutomatonKit.Description

open Text Reading

/-! ### Lines that are read without a warning -/

/-- Lines that are read without a warning and declare no state, and the edits they ask for. -/
structure Yields (names : Names) (lines : List (List Char)) (edits : List Edit) : Prop where
  /-- No line is blank or has blanks at its ends. -/
  trimmed : ∀ line ∈ lines, trim line = line ∧ line ≠ []
  no_states : ∀ line ∈ lines, ∀ declared, Directive.ofLine line ≠ .states declared
  no_causes : ∀ line ∈ lines, names.causes (.ofLine line) = []
  edits_eq : lines.flatMap (fun line => names.edits (.ofLine line)) = edits

variable {names : Names} {lines lines' : List (List Char)} {edits edits' : List Edit}

theorem Yields.asks (h : Yields names lines edits) : Asks names lines edits [] :=
  ⟨h.trimmed, h.no_states, h.edits_eq, List.flatMap_eq_nil_iff.mpr h.no_causes⟩

theorem Asks.yields (h : Asks names lines edits []) : Yields names lines edits :=
  ⟨h.trimmed, h.no_states, List.flatMap_eq_nil_iff.mp h.causes_eq, h.edits_eq⟩

theorem Yields.append (h : Yields names lines edits) (h' : Yields names lines' edits') :
    Yields names (lines ++ lines') (edits ++ edits') :=
  (h.asks.append h'.asks).yields

/-! ### The lines of an automaton -/

/-- What the lines of an automaton need so that every state is found again under its name. -/
structure Resolves (names : Names) (d : Automaton) : Prop where
  plain : ∀ id, id < d.stateCount → PlainName (nameOf d id)
  resolve : ∀ id, id < d.stateCount → names.resolve (String.ofList (nameOf d id)) = some id

namespace Resolves

variable {d : Automaton} {id : StateId}

theorem plain_name (h : Resolves names d) (hid : id < d.stateCount) :
    PlainName (String.ofList (nameOf d id)).toList := by
  rw [String.toList_ofList]
  exact h.plain id hid

theorem yields_startLine (h : Resolves names d) {start : Option StateId}
    (hlt : ∀ id, start = some id → id < d.stateCount) :
    Yields names (listLine startLabel (start.toList.map (nameOf d)))
      (start.toList.map Edit.setStart) := by
  cases start with
  | none => exact Asks.nil.yields
  | some id =>
    have hid := hlt id rfl
    have hasks := asks_startLine names (h.plain_name hid)
    rw [String.toList_ofList] at hasks
    simp only [Names.edits, Names.causes, h.resolve id hid] at hasks
    exact hasks.yields

theorem yields_acceptingLine (h : Resolves names d) {ids : List StateId}
    (hlt : ∀ id ∈ ids, id < d.stateCount) :
    Yields names (listLine acceptingLabel (ids.map (nameOf d))) (ids.map Edit.addAccepting) := by
  have hresolve : ∀ id ∈ ids, names.resolve (String.ofList (nameOf d id)) = some id :=
    fun id hid => h.resolve id (hlt id hid)
  have hplain : ∀ n ∈ ids.map fun id => String.ofList (nameOf d id), PlainName n.toList := by
    intro n hn
    obtain ⟨id, hid, rfl⟩ := List.mem_map.mp hn
    exact h.plain_name (hlt id hid)
  have hedits : (ids.map fun id => String.ofList (nameOf d id)).filterMap names.resolve = ids := by
    rw [List.filterMap_map]
    exact (List.filterMap_congr fun id hid => hresolve id hid).trans List.filterMap_some
  have hcauses : (ids.map fun id => String.ofList (nameOf d id)).filter
      (fun name => (names.resolve name).isNone) = [] := by
    rw [List.filter_eq_nil_iff]
    intro n hn
    obtain ⟨id, hid, rfl⟩ := List.mem_map.mp hn
    simp [hresolve id hid]
  have hlines : (ids.map fun id => String.ofList (nameOf d id)).map String.toList =
      ids.map (nameOf d) := by
    rw [List.map_map]
    exact List.map_congr_left fun id _ => String.toList_ofList
  have hasks := asks_acceptingLine names hplain
  rw [hlines] at hasks
  simp only [Names.edits, Names.causes, hedits, hcauses, List.map_nil] at hasks
  exact hasks.yields

theorem yields_transitionLines (h : Resolves names d) {ts : List Transition}
    (hlt : ∀ t ∈ ts, t.source < d.stateCount ∧ t.target < d.stateCount)
    (hsymbol : ∀ t ∈ ts, PlainSymbol t.symbol) :
    Yields names (ts.map (transitionLine d)) (ts.map Transition.edit) := by
  induction ts with
  | nil => exact Asks.nil.yields
  | cons t ts ih =>
    obtain ⟨hp, hq⟩ := hlt t List.mem_cons_self
    have hasks := asks_edgeLine names (h.plain_name hp) (h.plain_name hq)
      (hsymbol t List.mem_cons_self)
    rw [String.toList_ofList, String.toList_ofList] at hasks
    simp only [Names.edits, Names.causes, Names.resolveTransition, h.resolve _ hp,
      h.resolve _ hq] at hasks
    exact hasks.yields.append (ih (fun x hx => hlt x (List.mem_cons_of_mem _ hx))
      fun x hx => hsymbol x (List.mem_cons_of_mem _ hx))

end Resolves

variable {d : Automaton}

/-! ### The whole description -/

/-- What an automaton needs so that its description can be read back. -/
structure IsPlain (d : Automaton) : Prop where
  name : ∀ s ∈ d.states, PlainName s.name.toList
  /-- No two names are the same up to case. -/
  key : (d.states.map fun s => lowercase s.name.toList).Nodup
  symbol : ∀ c ∈ d.alphabet.symbols, PlainSymbol c

theorem nameOf_eq {id : StateId} {s : State} (h : d.states[id]? = some s) :
    nameOf d id = s.name.toList := by
  rw [nameOf, Automaton.state?, h]
  rfl

/-- After the line of the states, every state is found under its name. -/
theorem IsPlain.resolves (h : IsPlain d) {r : Reading} (hr : r.NamesAgree)
    (hdeclared : r.declared = d.states.map State.name) : Resolves r.names d := by
  have hstate : ∀ id, id < d.stateCount → ∃ s, d.states[id]? = some s :=
    fun id hid => ⟨_, List.getElem?_eq_getElem hid⟩
  constructor
  · intro id hid
    obtain ⟨s, hs⟩ := hstate id hid
    rw [nameOf_eq hs]
    exact h.name s (List.mem_of_getElem? hs)
  · intro id hid
    obtain ⟨s, hs⟩ := hstate id hid
    rw [nameOf_eq hs, String.ofList_toList, hr, hdeclared]
    refine denoted?_of_nodup ?_ (by rw [List.getElem?_map, hs]; rfl)
    rw [List.map_map]
    exact h.key

/-- Where no name has a line feed in it, no line has. -/
theorem lineFeed_not_mem_writeLines (hd : d.WellFormed)
    (hname : ∀ s ∈ d.states, '\n' ∉ s.name.toList)
    (hsymbol : ∀ c ∈ d.alphabet.symbols, PlainSymbol c) : ∀ line ∈ writeLines d, '\n' ∉ line := by
  have hnameOf : ∀ id, '\n' ∉ nameOf d id := by
    intro id
    cases hs : d.states[id]? with
    | none =>
      rw [nameOf, Automaton.state?, hs]
      exact List.not_mem_nil
    | some s =>
      rw [nameOf_eq hs]
      exact hname s (List.mem_of_getElem? hs)
  intro line hline
  simp only [writeLines, List.mem_append] at hline
  rcases hline with (((hline | hline) | hline) | hline) | hline
  · exact lineFeed_not_mem_listLine (by decide) (List.forall_mem_map.mpr hname) line hline
  · refine lineFeed_not_mem_listLine (by decide) (List.forall_mem_map.mpr fun c hc => ?_) line hline
    simpa using (hsymbol c hc).ne_lineFeed.symm
  · exact lineFeed_not_mem_listLine (by decide) (List.forall_mem_map.mpr fun id _ => hnameOf id)
      line hline
  · exact lineFeed_not_mem_listLine (by decide) (List.forall_mem_map.mpr fun id _ => hnameOf id)
      line hline
  · obtain ⟨t, ht, rfl⟩ := List.mem_map.mp hline
    exact lineFeed_not_mem_edgeLine (hnameOf _) (hnameOf _)
      (hsymbol _ (Automaton.mem_symbols_of_successor (hd.mem_transitions_iff.mp ht)))

/-- No line of a plain automaton has a line feed in it. -/
theorem IsPlain.lineFeed_not_mem (h : IsPlain d) (hd : d.WellFormed) :
    ∀ line ∈ writeLines d, '\n' ∉ line :=
  lineFeed_not_mem_writeLines hd (fun s hs => (h.name s hs).no_lineFeed) h.symbol

/-- Reading a written description performs the building edits. -/
theorem readChars_writeChars (h : IsPlain d) (hd : d.WellFormed) :
    (readChars (writeChars d)).automaton = Automaton.empty.editAll d.buildingEdits ∧
      (readChars (writeChars d)).warnings = [] := by
  have hstates : listLine statesLabel (d.states.map fun s => s.name.toList) =
      listLine statesLabel ((d.states.map State.name).map String.toList) := by
    rw [List.map_map]
    rfl
  have hlines : writeLines d = listLine statesLabel ((d.states.map State.name).map String.toList) ++
      (listLine alphabetLabel (d.alphabet.symbols.map fun c => [c]) ++
        listLine startLabel (d.start.toList.map (nameOf d)) ++
        listLine acceptingLabel (d.accepting.ids.map (nameOf d)) ++
        d.transitions.map (transitionLine d)) := by
    rw [writeLines, hstates]
    simp only [List.append_assoc]
  have hplain : ∀ n ∈ d.states.map State.name, PlainName n.toList := by
    intro n hn
    obtain ⟨s, hs, rfl⟩ := List.mem_map.mp hn
    exact h.name s hs
  have hedges : ∀ t ∈ d.transitions, d.successor t.source t.symbol = some t.target :=
    fun t ht => hd.mem_transitions_iff.mp ht
  have hlineFeed := h.lineFeed_not_mem hd
  rw [hlines] at hlineFeed
  obtain ⟨hautomaton, hcauses⟩ := readChars_sections hplain hlineFeed (fun r hr hdeclared => by
    have hresolves := h.resolves hr hdeclared
    -- the lines after the first one, group by group
    exact ((((asks_alphabetLine r.names h.symbol).yields.append
      (hresolves.yields_startLine hd.start_lt)).append
      (hresolves.yields_acceptingLine fun id hid => hd.lt_of_mem_accepting hid)).append
      (hresolves.yields_transitionLines (fun t ht => hd.lt_of_successor (hedges t ht))
        fun t ht => h.symbol _ (Automaton.mem_symbols_of_successor (hedges t ht)))).asks)
    (show writeChars d = _ by rw [writeChars, hlines])
  rw [hautomaton]
  refine ⟨?_, List.map_eq_nil_iff.mp hcauses⟩
  simp only [Automaton.buildingEdits, Listing.edits, Automaton.listing, List.append_assoc]

/-- **Reading undoes writing.**  A well-formed automaton whose names and symbols are plain, and
whose names differ by more than case, is read back from its description without a warning, and the
result is the automaton itself; so writing it again gives the same description. -/
theorem read_write (d : Automaton) (hd : d.violation? = none) (h : IsPlain d) :
    (read (write d)).warnings = [] ∧ (read (write d)).automaton = d ∧
      write (read (write d)).automaton = write d := by
  rw [Automaton.violation?_eq_none_iff] at hd
  have hread : read (write d) = readChars (writeChars d) := by
    rw [read, write, String.toList_ofList]
  obtain ⟨hautomaton, hwarnings⟩ := readChars_writeChars h hd
  rw [Automaton.editAll_buildingEdits hd] at hautomaton
  rw [hread, hautomaton]
  exact ⟨hwarnings, rfl, rfl⟩

/-- Two states whose names are made of the characters of the notation itself. -/
def arrowHeads : Automaton where
  states := [{ name := "- Σ:" }, { name := "States>", accepting := true }]
  alphabet := .ofList ['>', '-']
  table := [[none, some 1], [some 0]]
  start := some 0
  accepting := .ofList [1]

/-- The names and symbols of `arrowHeads` are plain, and so it is read back. -/
theorem read_write_arrowHeads :
    arrowHeads.violation? = none ∧ IsPlain arrowHeads ∧
      (read (write arrowHeads)).automaton = arrowHeads := by
  have hd : arrowHeads.violation? = none := by decide
  have hsymbol : ∀ c ∈ arrowHeads.alphabet.symbols, PlainSymbol c := by
    intro c hc
    have hc : c = '>' ∨ c = '-' := by simpa using show c ∈ ['>', '-'] from hc
    rcases hc with rfl | rfl <;> decide
  have h : IsPlain arrowHeads := ⟨by decide +kernel, by decide +kernel, hsymbol⟩
  exact ⟨hd, h, (read_write arrowHeads hd h).2.1⟩

end AutomatonKit.Description
