import Mathlib
import AutomatonKit.Proofs.Automaton.Listing

/-!
# Every well-formed automaton is built by edits

`buildingEdits d` registers the states of `d` without their flags, adds its symbols, chooses its
start state, makes its accepting states accepting, and writes its transitions, in the order in which
they are listed.  `editAll_buildingEdits` says that these edits build `d` itself from the empty
automaton, down to the columns and the lengths of the rows.

The edits that a listing asks for, `Listing.edits`, put it at the end of any other listing
(`Listing.Describes.editAll_edits`).  Since an automaton is described by the listing of its own
parts, what its building edits build is the automaton itself.
-/

namespace AutomatonKit

def Transition.edit (t : Transition) : Edit :=
  .addTransition t.source t.symbol t.target

/-- The edits that register states with given names. -/
def Automaton.declaringEdits (names : List String) : List Edit :=
  names.map fun name => .addState { name }

namespace Listing

/-- The edits that a listing asks for. -/
def edits (l : Listing) : List Edit :=
  Automaton.declaringEdits l.names ++ l.symbols.map Edit.addSymbol ++ l.starts.map Edit.setStart ++
    l.accepted.map Edit.addAccepting ++ l.edges.map Transition.edit

/-- A listing continued by another one.  The edges of the latter bring their symbols along. -/
def extend (l l' : Listing) : Listing where
  names := l.names ++ l'.names
  symbols := l.symbols ++ (l'.symbols ++ l'.edges.map Transition.symbol)
  starts := l.starts ++ l'.starts
  accepted := l.accepted ++ l'.accepted
  edges := l.edges ++ l'.edges

/-- Whether a listing only refers to states below a bound. -/
structure Within (l : Listing) (count : Nat) : Prop where
  starts_lt : ∀ id ∈ l.starts, id < count
  accepted_lt : ∀ id ∈ l.accepted, id < count
  edges_lt : ∀ t ∈ l.edges, t.source < count ∧ t.target < count

theorem Within.mono {l : Listing} {m n : Nat} (h : l.Within m) (hmn : m ≤ n) : l.Within n where
  starts_lt id hid := (h.starts_lt id hid).trans_le hmn
  accepted_lt id hid := (h.accepted_lt id hid).trans_le hmn
  edges_lt t ht := ⟨(h.edges_lt t ht).1.trans_le hmn, (h.edges_lt t ht).2.trans_le hmn⟩

/-! ### Runs of edits of one kind -/

theorem foldl_add_declaringEdits (l : Listing) (names : List String) :
    (Automaton.declaringEdits names).foldl add l = { l with names := l.names ++ names } := by
  induction names generalizing l with
  | nil => simp [Automaton.declaringEdits]
  | cons name names ih =>
    refine (ih (l.add (.addState { name }))).trans ?_
    simp [add]

theorem foldl_add_addSymbol (l : Listing) (cs : List Char) :
    (cs.map Edit.addSymbol).foldl add l = { l with symbols := l.symbols ++ cs } := by
  induction cs generalizing l with
  | nil => simp
  | cons c cs ih =>
    refine (ih (l.add (.addSymbol c))).trans ?_
    simp [add]

theorem foldl_add_setStart (l : Listing) {ids : List StateId}
    (h : ∀ id ∈ ids, id < l.names.length) :
    (ids.map Edit.setStart).foldl add l = { l with starts := l.starts ++ ids } := by
  induction ids generalizing l with
  | nil => simp
  | cons id ids ih =>
    obtain ⟨hid, hids⟩ := List.forall_mem_cons.mp h
    rw [List.map_cons, List.foldl_cons, add, if_pos hid,
      ih { l with starts := l.starts ++ [id] } hids]
    simp

theorem foldl_add_addAccepting (l : Listing) {ids : List StateId}
    (h : ∀ id ∈ ids, id < l.names.length) :
    (ids.map Edit.addAccepting).foldl add l = { l with accepted := l.accepted ++ ids } := by
  induction ids generalizing l with
  | nil => simp
  | cons id ids ih =>
    obtain ⟨hid, hids⟩ := List.forall_mem_cons.mp h
    rw [List.map_cons, List.foldl_cons, add, if_pos hid,
      ih { l with accepted := l.accepted ++ [id] } hids]
    simp

theorem foldl_add_transition (l : Listing) {ts : List Transition}
    (h : ∀ t ∈ ts, t.source < l.names.length ∧ t.target < l.names.length) :
    (ts.map Transition.edit).foldl add l =
      { l with symbols := l.symbols ++ ts.map Transition.symbol, edges := l.edges ++ ts } := by
  induction ts generalizing l with
  | nil => simp
  | cons t ts ih =>
    obtain ⟨ht, hts⟩ := List.forall_mem_cons.mp h
    rw [List.map_cons, List.foldl_cons, Transition.edit, add, if_pos ht,
      ih { l with symbols := l.symbols ++ [t.symbol], edges := l.edges ++ [t] } hts]
    simp

/-! ### All edits of a listing -/

variable {l l' : Listing} {d : Automaton}

theorem foldl_add_edits (h : l'.Within (l.names.length + l'.names.length)) :
    l'.edits.foldl add l = l.extend l' := by
  rw [← List.length_append] at h
  rw [edits, List.foldl_append, List.foldl_append, List.foldl_append, List.foldl_append,
    foldl_add_declaringEdits, foldl_add_addSymbol, foldl_add_setStart _ h.starts_lt,
    foldl_add_addAccepting _ h.accepted_lt, foldl_add_transition _ h.edges_lt, extend,
    List.append_assoc]

/-- **The edits of a listing** put it at the end of the listing of an automaton. -/
theorem Describes.editAll_edits (h : l.Describes d) (hd : d.WellFormed)
    (hl' : l'.Within (l.names.length + l'.names.length)) :
    (l.extend l').Describes (d.editAll l'.edits) :=
  foldl_add_edits hl' ▸ h.editAll hd l'.edits

/-- A listing that only refers to its own states describes what its edits build. -/
theorem Within.describes_editAll (h : l.Within l.names.length) :
    (empty.extend l).Describes (Automaton.empty.editAll l.edits) :=
  describes_empty.editAll_edits Automaton.wellFormed_empty (h.mono (Nat.le_add_left _ _))

end Listing

namespace Automaton

def listing (d : Automaton) : Listing where
  names := d.states.map State.name
  symbols := d.alphabet.symbols
  starts := d.start.toList
  accepted := d.accepting.ids
  edges := d.transitions

theorem map_name_editAll_declaringEdits (d : Automaton) (names : List String) :
    (d.editAll (declaringEdits names)).states.map State.name =
      d.states.map State.name ++ names := by
  induction names generalizing d with
  | nil => exact (List.append_nil _).symm
  | cons name names ih =>
    refine (ih (d.addState { name }).1).trans ?_
    simp [addState]

/-- Edits that build an automaton from the empty one. -/
def buildingEdits (d : Automaton) : List Edit :=
  d.listing.edits

variable {d : Automaton}

theorem WellFormed.within_listing (h : d.WellFormed) : d.listing.Within d.stateCount where
  starts_lt id hid := h.start_lt id (Option.mem_toList.mp hid)
  accepted_lt _ hid := h.lt_of_mem_accepting hid
  edges_lt _ ht := h.lt_of_successor (h.mem_transitions_iff.mp ht)

/-- The last of the listed edges from a state on a symbol is the only one. -/
theorem WellFormed.target?_listing (h : d.WellFormed) (p : StateId) (c : Char) :
    d.listing.target? p c = d.successor p c := by
  have hmem : ∀ t, t ∈ d.transitions.filter (fun t => t.source = p ∧ t.symbol = c) ↔
      d.successor p c = some t.target ∧ t.source = p ∧ t.symbol = c := by
    intro t
    rw [List.mem_filter, h.mem_transitions_iff, decide_eq_true_eq]
    refine and_congr_left ?_
    rintro ⟨rfl, rfl⟩
    rfl
  -- it does not matter that the last edge is taken: all of them have the same target
  show (d.transitions.filter fun t => t.source = p ∧ t.symbol = c).getLast?.map _ = _
  cases hlast : (d.transitions.filter fun t => t.source = p ∧ t.symbol = c).getLast? with
  | none =>
    refine (Option.eq_none_iff_forall_ne_some.mpr fun q hq => ?_).symm
    have hq := (hmem ⟨p, c, q⟩).mpr ⟨hq, rfl, rfl⟩
    rw [List.getLast?_eq_none_iff.mp hlast] at hq
    exact List.not_mem_nil hq
  | some t => exact ((hmem t).mp (List.mem_of_getLast? hlast)).1.symm

/-- A well-formed automaton is described by its parts. -/
theorem WellFormed.describes_listing (h : d.WellFormed) :
    (Listing.empty.extend d.listing).Describes d where
  states_eq := by
    refine List.ext_getElem? fun i => ?_
    show d.states[i]? = (List.mapIdx _ (d.states.map State.name))[i]?
    rw [List.getElem?_mapIdx, List.getElem?_map]
    cases hs : d.states[i]? with
    | none => rfl
    | some s =>
      have hflag : i ∈ d.accepting.ids ↔ s.accepting = true := by
        rw [h.mem_accepting_iff]
        simp [hs]
      show some s = some ⟨s.name, decide (i ∈ d.accepting.ids)⟩
      simp [hflag]
  symbols_eq := by
    -- the symbols of the edges have been listed before
    have hedges : (d.transitions.map Transition.symbol).removeAll d.alphabet.symbols = [] := by
      refine List.filter_eq_nil_iff.mpr fun c hc => ?_
      obtain ⟨t, ht, rfl⟩ := List.mem_map.mp hc
      simpa using mem_symbols_of_successor (h.mem_transitions_iff.mp ht)
    show _ = ([] ++ (d.alphabet.symbols ++ d.transitions.map Transition.symbol)).eraseDups
    rw [List.nil_append, List.eraseDups_append, hedges, List.eraseDups_nil, List.append_nil,
      Alphabet.eraseDups_of_nodup d.alphabet.nodup]
  start_eq := by
    show d.start = d.start.toList.getLast?
    cases d.start <;> rfl
  isAccepting_iff _ := isAccepting_iff
  successor_eq p c := (h.target?_listing p c).symm

/-- **The building edits of a well-formed automaton build it.** -/
theorem editAll_buildingEdits (h : d.WellFormed) : empty.editAll d.buildingEdits = d := by
  have hwithin : d.listing.Within d.listing.names.length := by
    have hlength : d.listing.names.length = d.stateCount := List.length_map State.name
    rw [hlength]
    exact h.within_listing
  -- the parts of `d` describe what is built as well as `d` itself
  exact hwithin.describes_editAll.unique h.describes_listing (wellFormed_empty.editAll _) h

end Automaton

end AutomatonKit
