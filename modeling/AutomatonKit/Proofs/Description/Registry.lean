import Mathlib
import AutomatonKit.Proofs.Description.Reading

/-!
# The names and the states stay in step

The reader keeps two things about the states that it has declared: the states themselves, in the
automaton, and the names under which they are looked up.  It uses what a lookup answers for calls on
the automaton and does not look at what these calls reply.  `names_mirror_states` says why this is
right.  At every moment a name is resolved to the greatest number of a state that has the name in
some spelling, so every number that comes out of a lookup is registered, and a call on registered
numbers takes effect.  Whatever is not settled by such a call is skipped with a warning.

A moment of the reading is not only the end of a line, since a list of states or of accepting states
is applied name by name.  Therefore the lines are divided into items, each of which is looked up and
applied at once (`items`), and the reading is taken after any number of items (`readItems`).
Reading all items is reading the text (`readItems_length`).
-/

namespace AutomatonKit.Description

open Text

/-! ### The items of a text -/

/-- The items of a directive, each as a directive of its own.  A list has an item for each of its
entries; every other directive is a single item. -/
def Directive.items : Directive → List Directive
  | .states names => names.map fun name => .states [name]
  | .alphabet symbols => symbols.map fun symbol => .alphabet [symbol]
  | .accepting names => names.map fun name => .accepting [name]
  | directive => [directive]

/-- An item of a description, with the line on which it stands. -/
structure Item where
  /-- The number of the line, counted from 1. -/
  number : Nat
  line : List Char
  directive : Directive
deriving DecidableEq

/-- The items of a numbered line; a blank line has none. -/
def itemsOn (entry : List Char × Nat) : List Item :=
  if trim entry.1 = [] then []
  else (Directive.ofLine (trim entry.1)).items.map fun directive =>
    ⟨entry.2, trim entry.1, directive⟩

/-- The items of a description, in the order in which they are read. -/
def items (text : String) : List Item :=
  (numberedLines text.toList).flatMap itemsOn

def Reading.readItem (r : Reading) (item : Item) : Reading :=
  r.apply item.number item.line item.directive

/-- What has been read of a text after so many of its items. -/
def readItems (text : String) (count : Nat) : Reading :=
  ((items text).take count).foldl Reading.readItem .empty

/-! ### Item by item -/

namespace Reading

/-- A directive is applied item by item. -/
theorem foldl_apply_items (r : Reading) (number : Nat) (line : List Char) (directive : Directive) :
    directive.items.foldl (fun r item => r.apply number line item) r =
      r.apply number line directive := by
  cases directive with
  | states names => exact List.foldl_map
  | alphabet symbols =>
    rw [Directive.items, List.foldl_map]
    show symbols.foldl (fun r c => { r with automaton := r.automaton.addSymbol c }) r =
      { r with automaton := symbols.foldl Automaton.addSymbol r.automaton }
    induction symbols generalizing r with
    | nil => rfl
    | cons c symbols ih => exact ih { r with automaton := r.automaton.addSymbol c }
  | accepting names => exact List.foldl_map
  | start name => rfl
  | transition source symbol target => rfl
  | malformedTransition => rfl
  | unrecognized => rfl

theorem foldl_readItem_itemsOn (r : Reading) (entry : List Char × Nat) :
    (itemsOn entry).foldl readItem r = r.readLine entry := by
  obtain ⟨line, number⟩ := entry
  rw [readLine_eq, itemsOn]
  split
  · rfl
  · rw [List.foldl_map]
    exact foldl_apply_items r number (trim line) (.ofLine (trim line))

end Reading

/-- **Reading all items is reading the text.** -/
theorem readItems_length (text : String) : readItems text (items text).length = read text := by
  rw [readItems, List.take_length, items, List.foldl_flatMap]
  simp only [Reading.foldl_readItem_itemsOn]
  rfl

theorem readItems_succ {text : String} {n : Nat} {item : Item} (h : (items text)[n]? = some item) :
    readItems text (n + 1) = (readItems text n).readItem item := by
  rw [readItems, List.take_add_one, h, List.foldl_append]
  rfl

/-- At every moment a name is resolved to the state that it denotes. -/
theorem namesAgree_readItems (text : String) (n : Nat) : (readItems text n).NamesAgree := by
  apply List.foldlRecOn ((items text).take n) Reading.readItem (fun _ => rfl)
  intro r hr item _
  exact hr.apply item.number item.line item.directive

/-! ### What a name is resolved to -/

/-- The numbers of the states that have a name in some spelling. -/
def statesNamed (d : Automaton) (name : String) : Set StateId :=
  {id | ∃ state, d.state? id = some state ∧ lowercase state.name.toList = lowercase name.toList}

namespace Reading

variable {r : Reading} {name : String} {id : StateId}

theorem mem_statesNamed_iff :
    id ∈ statesNamed r.automaton name ↔ isNamed r.declared name id = true := by
  rw [isNamed_iff, declared, List.getElem?_map]
  constructor
  · rintro ⟨state, hstate, hkey⟩
    have hstate : r.automaton.states[id]? = some state := hstate
    exact ⟨state.name, by rw [hstate]; rfl, hkey⟩
  · rintro ⟨n, hn, hkey⟩
    obtain ⟨state, hstate, rfl⟩ := Option.map_eq_some_iff.mp hn
    exact ⟨state, hstate, hkey⟩

theorem NamesAgree.resolve_eq_some_iff (h : r.NamesAgree) :
    r.names.resolve name = some id ↔ IsGreatest (statesNamed r.automaton name) id := by
  rw [h, denoted?_eq_some_iff, IsGreatest, mem_statesNamed_iff, mem_upperBounds]
  simp only [mem_statesNamed_iff]

theorem NamesAgree.resolve_eq_none_iff (h : r.NamesAgree) :
    r.names.resolve name = none ↔ statesNamed r.automaton name = ∅ := by
  rw [Set.eq_empty_iff_forall_notMem, h, denoted?, List.max?_eq_none_iff,
    List.filter_eq_nil_iff]
  simp only [mem_statesNamed_iff]
  constructor
  · intro hnone i hi
    obtain ⟨n, hn, -⟩ := isNamed_iff.mp hi
    have hlt : i < r.declared.length := (List.getElem?_eq_some_iff.mp hn).1
    exact hnone i (List.mem_range.mpr hlt) hi
  · intro hnone i _
    exact hnone i

theorem NamesAgree.lt_of_resolve (h : r.NamesAgree) (hid : r.names.resolve name = some id) :
    id < r.automaton.stateCount := by
  have hlen : r.declared.length = r.automaton.stateCount := List.length_map ..
  rw [← hlen]
  exact lt_of_denoted? ((h name).symm.trans hid)

/-- The names that are looked up and the states of the automaton are in step. -/
structure InStep (r : Reading) : Prop where
  /-- A name is resolved to the greatest number of a state that has it. -/
  resolve_eq_some_iff : ∀ name id,
    r.names.resolve name = some id ↔ IsGreatest (statesNamed r.automaton name) id
  /-- A name is not resolved if no state has it. -/
  resolve_eq_none_iff : ∀ name, r.names.resolve name = none ↔ statesNamed r.automaton name = ∅
  contains_of_resolve : ∀ name id, r.names.resolve name = some id → r.automaton.contains id = true
  setStart_applied : ∀ name id, r.names.resolve name = some id →
    (r.automaton.setStart id).2 = true
  addAccepting_applied : ∀ name id, r.names.resolve name = some id →
    (r.automaton.addAccepting id).2 = true
  addTransition_applied : ∀ source p symbol target q, r.names.resolve source = some p →
    r.names.resolve target = some q → (r.automaton.addTransition p symbol q).2 = true

theorem NamesAgree.inStep (h : r.NamesAgree) : r.InStep where
  resolve_eq_some_iff _ _ := h.resolve_eq_some_iff
  resolve_eq_none_iff _ := h.resolve_eq_none_iff
  contains_of_resolve _ _ hid := Automaton.contains_iff.mpr (h.lt_of_resolve hid)
  setStart_applied _ _ hid := by rw [Automaton.setStart_of_lt (h.lt_of_resolve hid)]
  addAccepting_applied _ _ hid := by rw [Automaton.addAccepting_of_lt (h.lt_of_resolve hid)]
  addTransition_applied _ _ c _ _ hp hq := by
    rw [Automaton.addTransition_of_lt c (h.lt_of_resolve hp) (h.lt_of_resolve hq)]

/-! ### How an item is settled -/

/-- An item asks for one call, or there is one cause for which it is skipped. -/
theorem edits_or_causes_of_mem_items (names : Names) {directive item : Directive}
    (h : item ∈ directive.items) :
    (∃ call, names.edits item = [call] ∧ names.causes item = []) ∨
      ∃ cause, names.edits item = [] ∧ names.causes item = [cause] := by
  cases directive with
  | states declared =>
    obtain ⟨name, -, rfl⟩ := List.mem_map.mp h
    exact Or.inl ⟨.addState { name }, rfl, rfl⟩
  | alphabet symbols =>
    obtain ⟨c, -, rfl⟩ := List.mem_map.mp h
    exact Or.inl ⟨.addSymbol c, rfl, rfl⟩
  | start name =>
    rw [List.mem_singleton.mp h, Names.edits, Names.causes]
    cases names.resolve name with
    | none => exact Or.inr ⟨_, rfl, rfl⟩
    | some id => exact Or.inl ⟨_, rfl, rfl⟩
  | accepting accepted =>
    obtain ⟨name, -, rfl⟩ := List.mem_map.mp h
    rw [Names.edits, Names.causes]
    cases hid : names.resolve name with
    | none => exact Or.inr ⟨.unknownAccepting name, by simp [hid], by simp [hid]⟩
    | some id => exact Or.inl ⟨.addAccepting id, by simp [hid], by simp [hid]⟩
  | transition source symbol target =>
    rw [List.mem_singleton.mp h, Names.edits, Names.causes]
    cases names.resolveTransition source symbol target with
    | error cause => exact Or.inr ⟨cause, rfl, rfl⟩
    | ok t => exact Or.inl ⟨t.edit, rfl, rfl⟩
  | malformedTransition =>
    rw [List.mem_singleton.mp h]
    exact Or.inr ⟨_, rfl, rfl⟩
  | unrecognized =>
    rw [List.mem_singleton.mp h]
    exact Or.inr ⟨_, rfl, rfl⟩

theorem exists_of_resolveTransition_eq_ok {names : Names} {source target : String}
    {symbol : Option Char} {t : Transition}
    (h : names.resolveTransition source symbol target = .ok t) :
    names.resolve source = some t.source ∧ names.resolve target = some t.target := by
  unfold Names.resolveTransition at h
  cases hp : names.resolve source with
  | none => simp [hp] at h
  | some p =>
    cases hq : names.resolve target with
    | none => simp [hp, hq] at h
    | some q =>
      cases symbol with
      | none => simp [hp, hq] at h
      | some c =>
        simp only [hp, hq] at h
        obtain rfl := Except.ok.inj h
        exact ⟨rfl, rfl⟩

theorem applied_ne {effect : Bool} (h : effect = true) :
    Edit.Reply.applied effect ≠ .applied false := by
  rw [h]
  decide

/-- **A call takes effect**, because it is only made with numbers that come out of a lookup. -/
theorem InStep.reply_ne_applied_false (h : r.InStep) {directive : Directive} {call : Edit}
    (hcall : call ∈ r.names.edits directive) :
    (r.automaton.edit call).2 ≠ .applied false := by
  cases directive with
  | states declared =>
    obtain ⟨name, -, rfl⟩ := List.mem_map.mp hcall
    exact Edit.Reply.noConfusion
  | alphabet symbols =>
    obtain ⟨c, -, rfl⟩ := List.mem_map.mp hcall
    exact Edit.Reply.noConfusion
  | start name =>
    obtain ⟨id, hid, rfl⟩ := List.mem_map.mp hcall
    exact applied_ne (h.setStart_applied name id (Option.mem_toList.mp hid))
  | accepting accepted =>
    obtain ⟨id, hid, rfl⟩ := List.mem_map.mp hcall
    obtain ⟨name, -, hname⟩ := List.mem_filterMap.mp hid
    exact applied_ne (h.addAccepting_applied name id hname)
  | transition source symbol target =>
    simp only [Names.edits] at hcall
    split at hcall
    · next t ht =>
      rw [List.mem_singleton.mp hcall]
      obtain ⟨hp, hq⟩ := exists_of_resolveTransition_eq_ok ht
      exact applied_ne (h.addTransition_applied source _ t.symbol target _ hp hq)
    · exact absurd hcall List.not_mem_nil
  | malformedTransition => exact absurd hcall List.not_mem_nil
  | unrecognized => exact absurd hcall List.not_mem_nil

/-- How the reader settles an item: by the call that it asks for, which takes effect, or by a warning
about its line, which says why it is skipped. -/
def Settles (r : Reading) (item : Item) (r' : Reading) : Prop :=
  (∃ call, r.names.edits item.directive = [call] ∧
    (r.automaton.edit call).2 ≠ .applied false ∧
    r'.automaton = (r.automaton.edit call).1 ∧ r'.warnings = r.warnings) ∨
  ∃ cause, r.names.causes item.directive = [cause] ∧ r'.automaton = r.automaton ∧
    r'.warnings = r.warnings ++ [⟨item.number, String.ofList item.line, cause⟩]

theorem InStep.settles (h : r.InStep) {item : Item} {directive : Directive}
    (hitem : item.directive ∈ directive.items) : r.Settles item (r.readItem item) := by
  have hautomaton := automaton_apply r item.number item.line item.directive
  have hwarnings := warnings_apply r item.number item.line item.directive
  rcases edits_or_causes_of_mem_items r.names hitem with ⟨call, hedits, hcauses⟩ |
    ⟨cause, hedits, hcauses⟩
  · rw [hedits] at hautomaton
    rw [hcauses, List.map_nil, List.append_nil] at hwarnings
    have hmem : call ∈ r.names.edits item.directive := by rw [hedits]; exact List.mem_singleton_self _
    exact Or.inl ⟨call, hedits, h.reply_ne_applied_false hmem, hautomaton, hwarnings⟩
  · rw [hedits] at hautomaton
    rw [hcauses] at hwarnings
    exact Or.inr ⟨cause, hcauses, hautomaton, hwarnings⟩

end Reading

/-! ### The whole text -/

theorem exists_of_mem_items {text : String} {item : Item} (h : item ∈ items text) :
    ∃ directive : Directive, item.directive ∈ directive.items := by
  obtain ⟨⟨line, number⟩, -, hitem⟩ := List.mem_flatMap.mp h
  rw [itemsOn] at hitem
  split at hitem
  · exact absurd hitem List.not_mem_nil
  · obtain ⟨directive, hdirective, rfl⟩ := List.mem_map.mp hitem
    exact ⟨_, hdirective⟩

/-- Only a list without entries has no items. -/
theorem Directive.items_eq_nil_iff {directive : Directive} :
    directive.items = [] ↔
      directive = .states [] ∨ directive = .alphabet [] ∨ directive = .accepting [] := by
  cases directive <;> simp [Directive.items]

theorem exists_item_of_line {text : String} {line : List Char} {number : Nat}
    (hmem : (line, number) ∈ numberedLines text.toList) (hne : trim line ≠ [])
    (hitems : (Directive.ofLine (trim line)).items ≠ []) :
    ∃ item ∈ items text, item.number = number ∧ item.line = trim line := by
  obtain ⟨directive, hdirective⟩ := List.exists_mem_of_ne_nil _ hitems
  refine ⟨⟨number, trim line, directive⟩, ?_, rfl, rfl⟩
  apply List.mem_flatMap.mpr
  refine ⟨(line, number), hmem, ?_⟩
  rw [itemsOn, if_neg hne]
  exact List.mem_map.mpr ⟨directive, hdirective, rfl⟩

/-- **The names mirror the states, and nothing is dropped silently.**  Read a text item by item.
After any number of items a name is resolved to the greatest number of a state that has it in some
spelling, and to nothing if there is none.  So what a lookup answers is registered, and every call
on it takes effect.  The next item is settled by such a call or by a warning about its line, and
every line has an item, unless it is blank or a list without entries. -/
theorem names_mirror_states (text : String) :
    readItems text (items text).length = read text ∧
    (∀ n, (readItems text n).InStep) ∧
    (∀ n item, (items text)[n]? = some item →
      (readItems text n).Settles item (readItems text (n + 1))) ∧
    ∀ line number, (line, number) ∈ numberedLines text.toList →
      trim line = [] ∨ Directive.ofLine (trim line) ∈ [.states [], .alphabet [], .accepting []] ∨
        ∃ item ∈ items text, item.number = number ∧ item.line = trim line := by
  refine ⟨readItems_length text, fun n => (namesAgree_readItems text n).inStep,
    fun n item hitem => ?_, fun line number hmem => ?_⟩
  · obtain ⟨directive, hdirective⟩ := exists_of_mem_items (List.mem_of_getElem? hitem)
    rw [readItems_succ hitem]
    exact (namesAgree_readItems text n).inStep.settles hdirective
  · by_cases hblank : trim line = []
    · exact Or.inl hblank
    · by_cases hitems : (Directive.ofLine (trim line)).items = []
      · exact Or.inr (Or.inl (by simpa using Directive.items_eq_nil_iff.mp hitems))
      · exact Or.inr (Or.inr (exists_item_of_line hmem hblank hitems))

/-- A text that declares a name in three spellings, the last one after the first reference, and
refers to a name that is not declared. -/
def harborText : String :=
  "States: Pier, quay, PIER\nStart state: pier\nAccept states: Quay, dock\nStates: pieR\n" ++
    "PIER, x -> quay"

/-- In the middle of the line of accepting states of `harborText` a name is resolved to the second of
its spellings so far, the next item is skipped with a warning, and the last item is a call. -/
theorem names_mirror_states_harbor :
    (items harborText).length = 8 ∧
      IsGreatest (statesNamed (readItems harborText 5).automaton "pier") 2 ∧
      (readItems harborText 5).Settles ⟨3, "Accept states: Quay, dock".toList, .accepting ["dock"]⟩
        (readItems harborText 6) ∧
      (readItems harborText 6).warnings =
        [⟨3, "Accept states: Quay, dock", .unknownAccepting "dock"⟩] ∧
      IsGreatest (statesNamed (readItems harborText 7).automaton "pier") 3 ∧
      ((readItems harborText 7).automaton.addTransition 3 'x' 1).2 = true := by
  obtain ⟨-, hstep, hsettles, -⟩ := names_mirror_states harborText
  have hlength : (items harborText).length = 8 := by decide +kernel
  have hitem : (items harborText)[5]? =
      some ⟨3, "Accept states: Quay, dock".toList, .accepting ["dock"]⟩ := by decide +kernel
  have hwarnings : (readItems harborText 6).warnings =
      [⟨3, "Accept states: Quay, dock", .unknownAccepting "dock"⟩] := by decide +kernel
  have hbefore : (readItems harborText 5).names.resolve "pier" = some 2 := by decide +kernel
  have hafter : (readItems harborText 7).names.resolve "PIER" = some 3 := by decide +kernel
  have hquay : (readItems harborText 7).names.resolve "quay" = some 1 := by decide +kernel
  have hkey : statesNamed (readItems harborText 7).automaton "pier" =
      statesNamed (readItems harborText 7).automaton "PIER" := by
    have hsame : lowercase "pier".toList = lowercase "PIER".toList := by decide +kernel
    rw [statesNamed, hsame]
    rfl
  refine ⟨hlength, ((hstep 5).resolve_eq_some_iff "pier" 2).mp hbefore, hsettles 5 _ hitem,
    hwarnings, ?_, (hstep 7).addTransition_applied "PIER" 3 'x' "quay" 1 hafter hquay⟩
  rw [hkey]
  exact ((hstep 7).resolve_eq_some_iff "PIER" 3).mp hafter

end AutomatonKit.Description
