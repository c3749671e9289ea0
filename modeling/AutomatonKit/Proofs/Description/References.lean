import Mathlib
import AutomatonKit.Proofs.Description.Canonical
import AutomatonKit.Proofs.Description.Registry

/-!
# References on an appended line

A reference is looked up where it stands, so a line after the last one of a text sees all of its
declarations.  What such a reference does depends on the line that it is made on: it chooses a start
state, makes a state accepting, or is one end of a transition.  `DenotesAfter` says that a name means
one and the same state in all of these places, and `denotesAfter_iff` that this is the state of the
greatest number under the name, in any spelling.

Not every declared name can be written on every kind of line.  A name with an arrow in it cuts a
transition in the wrong place, and one that begins with a label makes a line of another kind.  But
each can be chosen as the start state and be made accepting (`ofLine_startLine`,
`ofLine_acceptingLine`).
-/

namespace AutomatonKit

/-- Registered states become accepting, and no others do. -/
theorem Automaton.isAccepting_editAll_addAccepting {d : Automaton} {ids : List StateId}
    (h : ∀ id ∈ ids, id < d.stateCount) (j : StateId) :
    (d.editAll (ids.map .addAccepting)).isAccepting j = true ↔
      j ∈ ids ∨ d.isAccepting j = true := by
  induction ids generalizing d with
  | nil => simp [editAll]
  | cons id ids ih =>
    have hid := h id List.mem_cons_self
    have hstates : (d.addAccepting id).1.stateCount = d.stateCount := by
      rw [addAccepting_of_lt hid]
      exact List.length_modify ..
    have hone : (d.addAccepting id).1.isAccepting j = true ↔ j = id ∨ d.isAccepting j = true := by
      rw [addAccepting_of_lt hid, isAccepting_iff, isAccepting_iff]
      exact IdSet.mem_insert
    show ((d.addAccepting id).1.editAll (ids.map .addAccepting)).isAccepting j = true ↔ _
    rw [ih fun x hx => hstates ▸ h x (List.mem_cons_of_mem _ hx), hone, List.mem_cons]
    tauto

namespace Description

open Text

/-! ### One more line -/

/-- A text with one more line. -/
def appendLine (text : String) (line : List Char) : String :=
  text ++ "\n" ++ String.ofList line

variable {text name source target : String} {names : List String} {line : List Char}
  {id p q : StateId} {c : Char}

theorem read_appendLine (text : String) (h : '\n' ∉ line) :
    read (appendLine text line) = (read text).readLine (line, lineCount text + 1) := by
  have hlines : splitOn '\n' (String.ofList line).toList = [line] := by
    rw [String.toList_ofList, splitOn_eq]
    exact List.splitOn_eq_singleton h
  rw [read, readChars, appendLine, numberedLines_append, hlines, List.foldl_append, Nat.add_comm]
  rfl

/-- A line that is appended asks for edits on what was read before. -/
theorem automaton_read_appendLine {directive : Directive} (h : '\n' ∉ line)
    (hline : Directive.ofLine (trim line) = directive) :
    (read (appendLine text line)).automaton =
      (read text).automaton.editAll ((read text).names.edits directive) := by
  rw [read_appendLine text h, Reading.automaton_readLine, Names.editsOn, hline]

theorem namesAgree_read (text : String) : (read text).NamesAgree :=
  Reading.namesAgree_foldl_readLine (numberedLines text.toList)

theorem start_read_appendLine (h : '\n' ∉ line) (hline : Directive.ofLine (trim line) = .start name)
    (hid : (read text).names.resolve name = some id) :
    (read (appendLine text line)).automaton.start = some id := by
  have hlt := (namesAgree_read text).lt_of_resolve hid
  rw [automaton_read_appendLine h hline, Names.edits, hid]
  show ((read text).automaton.setStart id).1.start = some id
  rw [Automaton.setStart_of_lt hlt]

theorem isAccepting_read_appendLine (h : '\n' ∉ line)
    (hline : Directive.ofLine (trim line) = .accepting names) (j : StateId) :
    (read (appendLine text line)).automaton.isAccepting j = true ↔
      (∃ name ∈ names, (read text).names.resolve name = some j) ∨
        (read text).automaton.isAccepting j = true := by
  have hlt : ∀ id ∈ names.filterMap (read text).names.resolve,
      id < (read text).automaton.stateCount := by
    intro id hmem
    obtain ⟨name, -, hid⟩ := List.mem_filterMap.mp hmem
    exact (namesAgree_read text).lt_of_resolve hid
  rw [automaton_read_appendLine h hline, Names.edits,
    Automaton.isAccepting_editAll_addAccepting hlt, List.mem_filterMap]

theorem successor_read_appendLine (h : '\n' ∉ line)
    (hline : Directive.ofLine (trim line) = .transition source (some c) target)
    (hp : (read text).names.resolve source = some p)
    (hq : (read text).names.resolve target = some q) (x : StateId) (y : Char) :
    (read (appendLine text line)).automaton.successor x y =
      if x = p ∧ y = c then some q else (read text).automaton.successor x y := by
  have hedits : (read text).names.edits (.transition source (some c) target) =
      [.addTransition p c q] := by
    rw [Names.edits, Names.resolveTransition, hp, hq]
    rfl
  have hd : (read text).automaton.WellFormed :=
    Reading.wellFormed_foldl_readLine (numberedLines text.toList)
  have hnames := namesAgree_read text
  rw [automaton_read_appendLine h hline, hedits]
  exact hd.successor_addTransition c (hnames.lt_of_resolve hp) (hnames.lt_of_resolve hq) x y

/-! ### The state that a name denotes after a text -/

/-- A name denotes the state of a given number, wherever a line that is appended to a text refers to
it. -/
structure DenotesAfter (text name : String) (id : StateId) : Prop where
  resolve_eq : (read text).names.resolve name = some id
  start_eq : ∀ line, '\n' ∉ line → Directive.ofLine (trim line) = .start name →
    (read (appendLine text line)).automaton.start = some id
  isAccepting_of_mem : ∀ line names, '\n' ∉ line →
    Directive.ofLine (trim line) = .accepting names → name ∈ names →
    (read (appendLine text line)).automaton.isAccepting id = true
  /-- No other state becomes accepting by the name. -/
  isAccepting_iff : ∀ line, '\n' ∉ line → Directive.ofLine (trim line) = .accepting [name] →
    ∀ j, (read (appendLine text line)).automaton.isAccepting j = true ↔
      j = id ∨ (read text).automaton.isAccepting j = true
  /-- An edge from the name begins at the state. -/
  successor_of_source : ∀ line c target q, '\n' ∉ line →
    Directive.ofLine (trim line) = .transition name (some c) target →
    (read text).names.resolve target = some q →
    ∀ x y, (read (appendLine text line)).automaton.successor x y =
      if x = id ∧ y = c then some q else (read text).automaton.successor x y
  /-- An edge to the name leads to the state. -/
  successor_of_target : ∀ line source c p, '\n' ∉ line →
    Directive.ofLine (trim line) = .transition source (some c) name →
    (read text).names.resolve source = some p →
    ∀ x y, (read (appendLine text line)).automaton.successor x y =
      if x = p ∧ y = c then some id else (read text).automaton.successor x y

/-- What a name is resolved to is what it denotes. -/
theorem denotesAfter_of_resolve (hid : (read text).names.resolve name = some id) :
    DenotesAfter text name id where
  resolve_eq := hid
  start_eq _ h hline := start_read_appendLine h hline hid
  isAccepting_of_mem _ _ h hline hmem :=
    (isAccepting_read_appendLine h hline id).mpr (Or.inl ⟨name, hmem, hid⟩)
  isAccepting_iff line h hline j := by
    have hone : (∃ other ∈ [name], (read text).names.resolve other = some j) ↔ j = id := by
      simp [hid, eq_comm]
    rw [isAccepting_read_appendLine h hline, hone]
  successor_of_source _ _ _ _ h hline hq := successor_read_appendLine h hline hid hq
  successor_of_target _ _ _ _ h hline hp := successor_read_appendLine h hline hp hid

/-- **A name denotes the state of the greatest number under it.** -/
theorem denotesAfter_iff :
    DenotesAfter text name id ↔ IsGreatest (statesNamed (read text).automaton name) id := by
  rw [← (namesAgree_read text).resolve_eq_some_iff]
  exact ⟨DenotesAfter.resolve_eq, denotesAfter_of_resolve⟩

/-- A name that a state has denotes this state or a later one. -/
theorem exists_denotesAfter (h : id ∈ statesNamed (read text).automaton name) :
    ∃ greatest, DenotesAfter text name greatest ∧ id ≤ greatest := by
  cases hresolve : (read text).names.resolve name with
  | none =>
    rw [(namesAgree_read text).resolve_eq_none_iff] at hresolve
    rw [hresolve] at h
    exact absurd h (Set.notMem_empty id)
  | some greatest =>
    have hgreatest := (namesAgree_read text).resolve_eq_some_iff.mp hresolve
    exact ⟨greatest, denotesAfter_of_resolve hresolve, hgreatest.2 h⟩

/-! ### Lines on which every declared name can be referred to -/

/-- The line of a single name after a label. -/
def labelledLine (label : List Char) (name : String) : List Char :=
  label ++ ' ' :: name.toList

theorem trim_labelledLine {label : List Char} (hlabel : label ∈ labels)
    (h : PlainItem name.toList) :
    trim (labelledLine label name) = labelledLine label name ∧
      '\n' ∉ labelledLine label name := by
  have hline : labelledLine label name ∈ listLine label [name.toList] := by
    rw [listLine, List.intercalate_singleton]
    exact List.mem_singleton_self _
  obtain ⟨htrim, -, hlineFeed⟩ := trim_listLine hlabel (List.forall_mem_singleton.mpr h) _ hline
  exact ⟨htrim, hlineFeed⟩

theorem ofLine_startLine (h : PlainItem name.toList) :
    Directive.ofLine (trim (labelledLine startLabel name)) = .start name := by
  rw [(trim_labelledLine (by decide) h).1, labelledLine, (ofLine_label _).2.2.1,
    trim_cons_of_blank isBlank_space, h.trim_eq, String.ofList_toList]

theorem ofLine_acceptingLine (h : PlainItem name.toList) :
    Directive.ofLine (trim (labelledLine acceptingLabel name)) = .accepting [name] := by
  have htokens : tokens (' ' :: name.toList) = [name.toList] := by
    have hlist := tokens_of_plainItems (List.forall_mem_singleton.mpr h)
    rwa [List.intercalate_singleton] at hlist
  rw [(trim_labelledLine (by decide) h).1, labelledLine, (ofLine_label _).2.2.2,
    Description.names, htokens, List.map_singleton, String.ofList_toList]

end Description

end AutomatonKit
