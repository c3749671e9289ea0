import Mathlib
import AutomatonKit.Proofs.Description.Appending
import AutomatonKit.Proofs.Description.RoundTrip

/-!
# What is read can be written

Whatever stands in a text, the names and symbols that are read from it are clean.  A name is a token
of a line (`plainItem_of_mem_declares`), so it is trimmed, not empty, and has no comma and no line
feed in it.  A symbol is the first character of a trimmed text between commas, either of a list or
of a transition (`plainSymbol_of_mem_listing`), so it is neither a blank nor a comma.

What tokens may still contain is an arrow or a label, and two of them may differ by case alone.
`HasWritableNames` rules this out, and then the automaton that was read is plain.  So its
description is read back as the same automaton, and writing and reading again changes nothing:
`read_canonical`.
-/

namespace AutomatonKit.Description

open Text

/-! ### The names and symbols of a line -/

/-- A trimmed text without a comma begins with a symbol that every line gives back. -/
theorem plainSymbol_of_trim_eq_cons {s rest : List Char} {c : Char} (hcomma : ',' ∉ s)
    (htrim : trim s = c :: rest) : PlainSymbol c := by
  have hblank := (trim_eq_self_iff.mp (trim_trim s)).1
  rw [htrim, List.head?_cons] at hblank
  have hmem : c ∈ s := (trim_isInfix s).subset (by rw [htrim]; exact List.mem_cons_self)
  exact ⟨fun h => hcomma (h ▸ hmem), hblank c rfl⟩

/-- What stands between the comma and the arrow of a transition has no other comma in it. -/
theorem exists_of_parts?_eq_some {line source symbol target : List Char}
    (h : parts? line = some (source, symbol, target)) :
    ∃ piece, ',' ∉ piece ∧ trim piece = symbol := by
  rw [← splitTransition_eq_parts?] at h
  obtain ⟨p, hp, -, htrim⟩ := LineParts.splitTransition_eq_some_iff.mp h
  simp only [LineParts.trimmed, Prod.mk.injEq] at htrim
  exact ⟨p.symbol, hp.no_comma_symbol, htrim.2.1⟩

namespace Entry

variable {e : Entry} {c : Char}

theorem plainItem_of_mem_declares (hline : '\n' ∉ e.line) {name : String}
    (hname : name ∈ e.declares) : PlainItem name.toList := by
  rw [declares, declaresOn_eq] at hname
  cases hlist : afterLabel statesLabel e.line with
  | none =>
    rw [hlist] at hname
    exact absurd hname List.not_mem_nil
  | some list =>
    rw [hlist] at hname
    obtain ⟨token, htoken, rfl⟩ := List.mem_map.mp hname
    obtain ⟨hne, htrim, hcomma, hsub⟩ := of_mem_tokens htoken
    have hlist : list ⊆ e.line := by
      rw [afterLabel_eq_some_iff.mp hlist]
      exact List.subset_append_right _ _
    rw [String.toList_ofList]
    exact ⟨hne, htrim, hcomma, fun h => hline (hlist (hsub h))⟩

/-- The symbols of a list are first characters of its tokens. -/
theorem plainSymbol_of_mem_symbols (hc : c ∈ e.symbols) : PlainSymbol c := by
  rw [symbols_eq] at hc
  cases hlist : afterLabel alphabetLabel e.line with
  | none =>
    rw [hlist] at hc
    exact absurd hc List.not_mem_nil
  | some list =>
    rw [hlist] at hc
    obtain ⟨token, htoken, hhead⟩ := List.mem_filterMap.mp hc
    obtain ⟨-, htrim, hcomma, -⟩ := of_mem_tokens htoken
    obtain ⟨rest, hrest⟩ := List.head?_eq_some_iff.mp hhead
    exact plainSymbol_of_trim_eq_cons hcomma (htrim.trans hrest)

/-- The symbol of a transition is the first character of what stands between comma and arrow. -/
theorem plainSymbol_of_edge? {t : Transition} (h : e.edge? = some t) : PlainSymbol t.symbol := by
  obtain ⟨-, source, rest, target, hparts, -⟩ := edge?_eq_some_iff.mp h
  obtain ⟨piece, hcomma, htrim⟩ := exists_of_parts?_eq_some hparts
  exact plainSymbol_of_trim_eq_cons hcomma htrim

end Entry

/-- **Symbols are plain**, whether a list or a transition mentions them. -/
theorem plainSymbol_of_mem_listing {es : List Entry} {c : Char} (hc : c ∈ (listing es).symbols) :
    PlainSymbol c := by
  obtain ⟨e, -, hc⟩ := List.mem_flatMap.mp hc
  rcases List.mem_append.mp hc with hc | hc
  · exact Entry.plainSymbol_of_mem_symbols hc
  · obtain ⟨t, ht, rfl⟩ := List.mem_map.mp hc
    exact Entry.plainSymbol_of_edge? (Option.mem_toList.mp ht)

/-! ### The names and symbols of a text -/

variable {text : String}

theorem lineFeed_not_mem_of_mem_entries {e : Entry} (he : e ∈ entries text) : '\n' ∉ e.line := by
  rw [entries_eq] at he
  obtain ⟨line, hline, htrim⟩ := exists_line_of_mem_entriesOf he
  have hpiece : line ∈ splitOn '\n' text.toList := by
    rw [← List.zipIdx_map_fst 1 (splitOn '\n' text.toList)]
    exact List.mem_map_of_mem (f := Prod.fst) hline
  rw [htrim]
  exact fun h => (of_mem_splitOn hpiece).1 ((trim_isInfix line).subset h)

/-- The names that the lines of a text declare, in this order. -/
def declaredNames (text : String) : List String :=
  (entries text).flatMap Entry.declares

/-- The states that are read are the declared ones. -/
theorem map_name_read (text : String) :
    (read text).automaton.states.map State.name = declaredNames text := by
  rw [declaredNames, entries_eq]
  exact (describes_foldl_readLine (numberedLines text.toList)).1.map_name

theorem plainItem_of_mem_declaredNames {name : String} (hname : name ∈ declaredNames text) :
    PlainItem name.toList := by
  obtain ⟨e, he, hname⟩ := List.mem_flatMap.mp hname
  exact Entry.plainItem_of_mem_declares (lineFeed_not_mem_of_mem_entries he) hname

theorem name_mem_declaredNames {s : State} (hs : s ∈ (read text).automaton.states) :
    s.name ∈ declaredNames text :=
  map_name_read text ▸ List.mem_map_of_mem hs

theorem plainSymbol_of_mem_read {c : Char} (hc : c ∈ (read text).automaton.alphabet.symbols) :
    PlainSymbol c := by
  have hsymbols := (describes_foldl_readLine (numberedLines text.toList)).1.symbols_eq
  rw [← entries_eq] at hsymbols
  have hc : c ∈ (listing (entries text)).symbols.eraseDups := hsymbols ▸ hc
  exact plainSymbol_of_mem_listing (List.mem_eraseDups.mp hc)

/-! ### Writing what was read -/

/-- What tokens need besides so that the automaton of a text can be written down: no declared name
has an arrow in it or begins with a label, and no two of them differ by case alone or not at all. -/
structure HasWritableNames (text : String) : Prop where
  no_arrow : ∀ name ∈ declaredNames text, ¬ ['-', '>'] <:+: name.toList
  no_label : ∀ name ∈ declaredNames text, ∀ label ∈ labels, ¬ label <+: name.toList
  key : ((declaredNames text).map fun name => lowercase name.toList).Nodup

theorem HasWritableNames.plainName (h : HasWritableNames text) {name : String}
    (hname : name ∈ declaredNames text) : PlainName name.toList :=
  have hitem := plainItem_of_mem_declaredNames hname
  ⟨hitem.ne_nil, hitem.trim_eq, hitem.no_comma, h.no_arrow name hname, hitem.no_lineFeed,
    h.no_label name hname⟩

theorem HasWritableNames.isPlain (h : HasWritableNames text) : IsPlain (read text).automaton where
  name _ hs := h.plainName (name_mem_declaredNames hs)
  key := by
    have hkey := h.key
    rw [← map_name_read, List.map_map] at hkey
    exact hkey
  symbol _ hc := plainSymbol_of_mem_read hc

/-- **What is read is clean, and writing it gives a canonical description.**  For every text, the
names of the states that are read are trimmed, not empty and free of commas and line feeds, and
their symbols are neither blanks nor commas.  If the declared names are writable, the description of
the automaton is read without a warning as the same automaton, so that writing it again gives the
same description. -/
theorem read_canonical (text : String) :
    (∀ s ∈ (read text).automaton.states, PlainItem s.name.toList) ∧
    (∀ c ∈ (read text).automaton.alphabet.symbols, PlainSymbol c) ∧
    (HasWritableNames text →
      (read (write (read text).automaton)).isClean = true ∧
      (read (write (read text).automaton)).automaton = (read text).automaton ∧
      write (read (write (read text).automaton)).automaton = write (read text).automaton) := by
  refine ⟨fun s hs => plainItem_of_mem_declaredNames (name_mem_declaredNames hs),
    fun c hc => plainSymbol_of_mem_read hc, fun h => ?_⟩
  have hd : (read text).automaton.WellFormed :=
    Reading.wellFormed_foldl_readLine (numberedLines text.toList)
  obtain ⟨hautomaton, hwarnings⟩ := readChars_writeChars h.isPlain hd
  have hread : read (write (read text).automaton) =
      readChars (writeChars (read text).automaton) := by
    rw [read, write, String.toList_ofList]
  rw [Automaton.editAll_buildingEdits hd] at hautomaton
  rw [hread, hautomaton, Reading.isClean, hwarnings]
  exact ⟨rfl, rfl, rfl⟩

/-- A text in which hardly a line is in order. -/
def untidyText : String :=
  "States: idle ,, Run\nAlphabet: \t, tick\n???\n idle ,go! -> RUN\nrun, -> idle\n" ++
    "Accept states: run, gone"

/-- Two states and two symbols are read from `untidyText`, and the description of what was read is
in order. -/
theorem read_canonical_untidyText :
    HasWritableNames untidyText ∧ (read untidyText).warnings.length = 3 ∧
      (read (write (read untidyText).automaton)).isClean = true := by
  have hnames : declaredNames untidyText = ["idle", "Run"] := by decide +kernel
  have h : HasWritableNames untidyText := by
    constructor <;> rw [hnames] <;> decide +kernel
  exact ⟨h, by decide +kernel, ((read_canonical untidyText).2.2 h).1⟩

end AutomatonKit.Description
