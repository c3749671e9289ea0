import Mathlib
import AutomatonKit.Proofs.Description.Meaning

/-!
# What is appended revises nothing

A name refers to a state that is declared above it, so the lines of a text mean the same whatever
follows them: the entries of a text are the first entries of every longer text (`entriesOf_append`),
and what a longer text lists is a continuation of what the text lists (`listing_append`).

`Listing.Describes.keeps` says what follows for the automata that the two listings describe.  Names
and symbols are listed in an order, and more of them come after those that are there.  Accepting
states and the choice of a start state are never taken back.  Of several edges from a state on a
symbol the last one counts, so an edge is replaced only by one that is listed later.
`read_append_keeps` is this for two texts, the second appended to the first on a new line.
-/

namespace AutomatonKit

/-! ### Listings that are continued -/

/-- What `d` has is there in `d'` as well.  Only the targets of edges may have changed, and only
where one of the edges in `later` leads to the new target. -/
structure Automaton.KeptIn (d d' : Automaton) (later : List Transition) : Prop where
  names_prefix : d.states.map State.name <+: d'.states.map State.name
  /-- A state keeps its name, and its flag if it has one. -/
  flag_kept : ∀ id s, d.state? id = some s → s.accepting = true →
    ∃ s', d'.state? id = some s' ∧ s'.name = s.name ∧ s'.accepting = true
  isAccepting_kept : ∀ id, d.isAccepting id = true → d'.isAccepting id = true
  /-- Every symbol keeps its column. -/
  symbols_prefix : d.alphabet.symbols <+: d'.alphabet.symbols
  /-- There is still a start state, if not the same one. -/
  start_kept : d.start.isSome = true → d'.start.isSome = true
  successor_kept : ∀ p c q, d.successor p c = some q →
    ∃ q', d'.successor p c = some q' ∧ (q' = q ∨ ⟨p, c, q'⟩ ∈ later)

namespace Listing

/-- A listing followed by another one. -/
def append (l l' : Listing) : Listing where
  names := l.names ++ l'.names
  symbols := l.symbols ++ l'.symbols
  starts := l.starts ++ l'.starts
  accepted := l.accepted ++ l'.accepted
  edges := l.edges ++ l'.edges

/-- The edges that are listed later come first. -/
theorem target?_append (l l' : Listing) (p : StateId) (c : Char) :
    (l.append l').target? p c = (l'.target? p c).or (l.target? p c) := by
  unfold target? append
  rw [List.filter_append, List.getLast?_append]
  cases (l'.edges.filter _).getLast? <;> rfl

theorem mem_edges_of_target? {l : Listing} {p q : StateId} {c : Char}
    (h : l.target? p c = some q) : ⟨p, c, q⟩ ∈ l.edges := by
  unfold target? at h
  obtain ⟨t, ht, rfl⟩ := Option.map_eq_some_iff.mp h
  obtain ⟨hmem, hfrom⟩ := List.mem_filter.mp (List.mem_of_getLast? ht)
  obtain ⟨rfl, rfl⟩ := of_decide_eq_true hfrom
  exact hmem

/-- The states of an automaton are the listed ones with their flags. -/
theorem Describes.state?_eq {l : Listing} {d : Automaton} (h : l.Describes d) (id : StateId) :
    d.state? id = l.names[id]?.map fun name => ⟨name, decide (id ∈ l.accepted)⟩ := by
  rw [Automaton.state?, h.states_eq, List.getElem?_mapIdx]

/-- **A continued listing keeps what was listed**, except for edges that are replaced by later
ones. -/
theorem Describes.keeps {l l' : Listing} {d d' : Automaton} (h : l.Describes d)
    (h' : (l.append l').Describes d') : d.KeptIn d' l'.edges where
  names_prefix := by
    rw [h.map_name, h'.map_name]
    exact List.prefix_append l.names l'.names
  flag_kept id s hs hflag := by
    rw [h.state?_eq] at hs
    obtain ⟨name, hname, rfl⟩ := Option.map_eq_some_iff.mp hs
    have haccepted : id ∈ l.accepted := of_decide_eq_true hflag
    have hlt : id < l.names.length := (List.getElem?_eq_some_iff.mp hname).1
    have hname' : (l.append l').names[id]? = some name := by
      show (l.names ++ l'.names)[id]? = some name
      rw [List.getElem?_append_left hlt, hname]
    have hs' : d'.state? id = some ⟨name, decide (id ∈ l.accepted ++ l'.accepted)⟩ := by
      rw [h'.state?_eq, hname']
      rfl
    exact ⟨_, hs', rfl, decide_eq_true (List.mem_append_left _ haccepted)⟩
  isAccepting_kept id hid := by
    have haccepted : id ∈ l.accepted := (h.isAccepting_iff id).mp hid
    exact (h'.isAccepting_iff id).mpr (List.mem_append_left _ haccepted)
  symbols_prefix := by
    have hsymbols : d'.alphabet.symbols = (l.symbols ++ l'.symbols).eraseDups := h'.symbols_eq
    rw [h.symbols_eq, hsymbols, List.eraseDups_append]
    exact List.prefix_append _ _
  start_kept hstart := by
    have hstart' : d'.start = (l.starts ++ l'.starts).getLast? := h'.start_eq
    rw [h.start_eq] at hstart
    rw [hstart', List.getLast?_append, Option.isSome_or, hstart, Bool.or_true]
  successor_kept p c q hq := by
    rw [h.successor_eq] at hq
    rw [h'.successor_eq, target?_append, hq]
    cases hlater : l'.target? p c with
    | none => exact ⟨q, rfl, Or.inl rfl⟩
    | some q' => exact ⟨q', rfl, Or.inr (mem_edges_of_target? hlater)⟩

end Listing

namespace Description

open Text

/-! ### The lines of a longer text -/

theorem listing_append (es es' : List Entry) :
    listing (es ++ es') = (listing es).append (listing es') := by
  simp only [listing, Listing.append, List.flatMap_append, List.filterMap_append]

/-- **Lines mean the same whatever follows them.**  The further entries are those of the further
lines. -/
theorem entriesOf_append (lines more : List (List Char × Nat)) :
    ∃ later, entriesOf (lines ++ more) = entriesOf lines ++ later ∧
      ∀ e ∈ later, ∃ line, (line, e.number) ∈ more ∧ e.line = trim line := by
  induction more using List.reverseRecOn with
  | nil => exact ⟨[], by rw [List.append_nil, List.append_nil], by simp⟩
  | append_singleton more last ih =>
    obtain ⟨line, number⟩ := last
    obtain ⟨later, hlater, hmem⟩ := ih
    have hmem' : ∀ e ∈ later, ∃ line', (line', e.number) ∈ more ++ [(line, number)] ∧
        e.line = trim line' := by
      intro e he
      obtain ⟨line', hline', hline⟩ := hmem e he
      exact ⟨line', List.mem_append_left _ hline', hline⟩
    rw [← List.append_assoc, entriesOf_append_singleton, hlater]
    by_cases hblank : trim line = []
    · rw [if_pos hblank, List.append_nil]
      exact ⟨later, rfl, hmem'⟩
    · rw [if_neg hblank, List.append_assoc]
      refine ⟨_, rfl, fun e he => ?_⟩
      rcases List.mem_append.mp he with he | he
      · exact hmem' e he
      · rw [List.mem_singleton.mp he]
        exact ⟨line, by simp, rfl⟩

/-- The entries of a text have the numbers of its lines. -/
theorem exists_line_of_mem_entriesOf {lines : List (List Char × Nat)} {e : Entry}
    (he : e ∈ entriesOf lines) : ∃ line, (line, e.number) ∈ lines ∧ e.line = trim line := by
  obtain ⟨later, hlater, hmem⟩ := entriesOf_append [] lines
  have hnil : entriesOf [] = [] := rfl
  rw [List.nil_append, hnil, List.nil_append] at hlater
  exact hmem e (hlater ▸ he)

def lineCount (text : String) : Nat :=
  (splitOn '\n' text.toList).length

/-- The lines of the second text are numbered on from those of the first. -/
theorem numberedLines_append (a b : String) :
    numberedLines (a ++ "\n" ++ b).toList =
      numberedLines a.toList ++ (splitOn '\n' b.toList).zipIdx (1 + lineCount a) := by
  have hlines : splitOn '\n' (a ++ "\n" ++ b).toList =
      splitOn '\n' a.toList ++ splitOn '\n' b.toList := by
    have hfeed : "\n".toList = ['\n'] := rfl
    rw [String.toList_append, String.toList_append, hfeed, List.append_assoc,
      List.singleton_append, splitOn_eq, splitOn_eq, splitOn_eq, List.splitOn_append_cons_self]
  unfold numberedLines
  rw [hlines, List.zipIdx_append]
  rfl

/-- The entries of the lines that stand after a text, when another one is appended to it. -/
def appendedEntries (a b : String) : List Entry :=
  (entries (a ++ "\n" ++ b)).filter fun e => lineCount a < e.number

/-- **The entries of a text come first**, and the others are about lines of the appended text. -/
theorem entries_append (a b : String) :
    entries (a ++ "\n" ++ b) = entries a ++ appendedEntries a b ∧
      ∀ e ∈ appendedEntries a b, ∃ line number, (line, number) ∈ numberedLines b.toList ∧
        e.number = lineCount a + number ∧ e.line = trim line := by
  obtain ⟨later, hlater, hmem⟩ := entriesOf_append (numberedLines a.toList)
    ((splitOn '\n' b.toList).zipIdx (1 + lineCount a))
  have hentries : entries (a ++ "\n" ++ b) = entries a ++ later := by
    rw [entries_eq, numberedLines_append, hlater, entries_eq]
  have hbefore : ∀ e ∈ entries a, ¬ lineCount a < e.number := by
    intro e he
    rw [entries_eq] at he
    obtain ⟨line, hline, -⟩ := exists_line_of_mem_entriesOf he
    have hlt : e.number < 1 + (splitOn '\n' a.toList).length := (List.mem_zipIdx hline).2.1
    unfold lineCount
    omega
  have hafter : ∀ e ∈ later, ∃ line number, (line, number) ∈ numberedLines b.toList ∧
      e.number = lineCount a + number ∧ e.line = trim line := by
    intro e he
    obtain ⟨line, hline, htrim⟩ := hmem e he
    obtain ⟨i, hi, hnumber⟩ : ∃ i, (splitOn '\n' b.toList)[i]? = some line ∧
        e.number = 1 + lineCount a + i := by
      obtain ⟨hle, hlt, hget⟩ := List.mem_zipIdx hline
      exact ⟨e.number - (1 + lineCount a), by rw [List.getElem?_eq_getElem, hget], by omega⟩
    refine ⟨line, 1 + i, ?_, by omega, htrim⟩
    exact List.mem_iff_getElem?.mpr ⟨i, by rw [numberedLines, List.getElem?_zipIdx, hi]; rfl⟩
  have hlater' : appendedEntries a b = later := by
    rw [appendedEntries, hentries, List.filter_append, List.filter_eq_nil_iff.mpr, List.nil_append,
      List.filter_eq_self.mpr]
    · intro e he
      obtain ⟨line, number, hline, hnumber, -⟩ := hafter e he
      have hle := (List.mem_zipIdx hline).1
      exact decide_eq_true (by omega)
    · intro e he
      simpa using hbefore e he
  rw [hlater']
  exact ⟨hentries, hafter⟩

/-! ### Reading a longer text -/

/-- **What is appended revises nothing.**  Read a text, and read it again with another text appended
on a new line.  The warnings are still there, at the beginning, so no name that was skipped is bound
by a later declaration.  What the automaton has is kept: the states with their names and flags, the
columns of the symbols, and that there is a start state.  An edge is kept, too, unless a line that
is appended applies another one from the same state on the same symbol. -/
theorem read_append_keeps (a b : String) :
    (read a).warnings <+: (read (a ++ "\n" ++ b)).warnings ∧
    (read a).automaton.KeptIn (read (a ++ "\n" ++ b)).automaton
      ((appendedEntries a b).filterMap Entry.edge?) ∧
    ∀ e ∈ appendedEntries a b, ∃ line number, (line, number) ∈ numberedLines b.toList ∧
      e.number = lineCount a + number ∧ e.line = trim line := by
  obtain ⟨hautomaton, hwarnings⟩ := describes_foldl_readLine (numberedLines a.toList)
  obtain ⟨hautomaton', hwarnings'⟩ :=
    describes_foldl_readLine (numberedLines (a ++ "\n" ++ b).toList)
  rw [← entries_eq] at hautomaton hautomaton' hwarnings hwarnings'
  obtain ⟨hentries, happended⟩ := entries_append a b
  have hlisting : listing (entries (a ++ "\n" ++ b)) =
      (listing (entries a)).append (listing (appendedEntries a b)) := by
    rw [hentries, listing_append]
  refine ⟨?_, ?_, happended⟩
  · have hpre : (entries a).flatMap Entry.warnings <+:
        (entries (a ++ "\n" ++ b)).flatMap Entry.warnings := by
      rw [hentries, List.flatMap_append]
      exact List.prefix_append _ _
    show ((numberedLines _).foldl Reading.readLine .empty).warnings <+:
      ((numberedLines _).foldl Reading.readLine .empty).warnings
    rw [hwarnings, hwarnings']
    exact hpre
  · have hwhole : ((listing (entries a)).append (listing (appendedEntries a b))).Describes
        (read (a ++ "\n" ++ b)).automaton := hlisting ▸ hautomaton'
    exact hautomaton.keeps hwhole

/-- A text that refers to a state which is not declared, and ends in the middle of a line ending. -/
def seamText : String :=
  "States: a, b\nStart state: c\nStart state: a\na, x -> a\r"

/-- A text that redirects an edge of `seamText`, and then declares the missing state and takes the
name of another one over. -/
def reboundText : String :=
  "a, x -> b\nStates: C, A\nAccept states: a"

/-- With `reboundText` after it, `seamText` still has its warning and its edge, which leads to
another state. -/
theorem read_append_keeps_seam :
    (read seamText).warnings = [⟨2, "Start state: c", .unknownStart "c"⟩] ∧
      (read seamText).warnings <+: (read (seamText ++ "\n" ++ reboundText)).warnings ∧
      (read seamText).automaton.successor 0 'x' = some 0 ∧
      (∃ q, (read (seamText ++ "\n" ++ reboundText)).automaton.successor 0 'x' = some q ∧
        (q = 0 ∨ ⟨0, 'x', q⟩ ∈ (appendedEntries seamText reboundText).filterMap Entry.edge?)) ∧
      (read (seamText ++ "\n" ++ reboundText)).automaton.successor 0 'x' = some 1 := by
  have hwarning : (read seamText).warnings = [⟨2, "Start state: c", .unknownStart "c"⟩] := by
    decide +kernel
  have hedge : (read seamText).automaton.successor 0 'x' = some 0 := by decide +kernel
  obtain ⟨hpre, hkept, -⟩ := read_append_keeps seamText reboundText
  exact ⟨hwarning, hpre, hedge, hkept.successor_kept 0 'x' 0 hedge, by decide +kernel⟩

end Description

end AutomatonKit
