import Mathlib
import AutomatonKit.Proofs.Blueprint.Faults

/-!
# The outcome of building

What becomes of a blueprint can be said in terms of its names alone.  It can be built if no state is
declared twice and every name that is referred to is declared (`Blueprint.IsSound`).  Otherwise the
fault is the first one in the order of the parts, and in each part in the order of the calls
(`Blueprint.FirstFault`).  What is built has the declared states, and everything else refers to them
as the blueprint does (`Blueprint.Specifies`).  `build_exact` says this of any sequence of calls.

The faults are those of `failsWith_build`, read part by part.  An automaton that is built is
described by the listing of the blueprint (`describes_build`), in which each name stands for the
number of the state, and as no state is declared twice, a name can be read back from its number
(`idOf?_eq_some_iff`).
-/

namespace AutomatonKit.Blueprint

variable {b : Blueprint} {d : Automaton} {fault : Fault} {id : StateId} {n : String}

/-! ### What a blueprint says -/

/-- No state is declared twice, and every name that is referred to is declared. -/
structure IsSound (b : Blueprint) : Prop where
  distinct : b.states.Nodup
  start : ∀ n, b.start = some n → n ∈ b.states
  accepting : ∀ n ∈ b.accepting, n ∈ b.states
  transitions : ∀ t ∈ b.transitions, t.source ∈ b.states ∧ t.target ∈ b.states

/-- The first thing that is wrong with a blueprint.  Nothing is wrong with what comes before it. -/
inductive FirstFault (b : Blueprint) : Fault → Prop where
  | duplicateState {before after : List String} {name : String}
      (states_eq : b.states = before ++ name :: after) (distinct : before.Nodup)
      (repeated : name ∈ before) : FirstFault b (.duplicateState name)
  | unknownStart {name : String} (distinct : b.states.Nodup) (start_eq : b.start = some name)
      (undeclared : name ∉ b.states) : FirstFault b (.unknownStart name)
  | unknownAccepting {before after : List String} {name : String} (distinct : b.states.Nodup)
      (start : ∀ n, b.start = some n → n ∈ b.states)
      (accepting_eq : b.accepting = before ++ name :: after)
      (declared : ∀ n ∈ before, n ∈ b.states) (undeclared : name ∉ b.states) :
      FirstFault b (.unknownAccepting name)
  | unknownSource {before after : List NamedTransition} {t : NamedTransition}
      (distinct : b.states.Nodup) (start : ∀ n, b.start = some n → n ∈ b.states)
      (accepting : ∀ n ∈ b.accepting, n ∈ b.states)
      (transitions_eq : b.transitions = before ++ t :: after)
      (declared : ∀ t' ∈ before, t'.source ∈ b.states ∧ t'.target ∈ b.states)
      (undeclared : t.source ∉ b.states) : FirstFault b (.unknownSource t.source)
  | unknownTarget {before after : List NamedTransition} {t : NamedTransition}
      (distinct : b.states.Nodup) (start : ∀ n, b.start = some n → n ∈ b.states)
      (accepting : ∀ n ∈ b.accepting, n ∈ b.states)
      (transitions_eq : b.transitions = before ++ t :: after)
      (declared : ∀ t' ∈ before, t'.source ∈ b.states ∧ t'.target ∈ b.states)
      (source : t.source ∈ b.states) (undeclared : t.target ∉ b.states) :
      FirstFault b (.unknownTarget t.target)

/-- The target of the last transition that is called for from a state on a symbol. -/
def lastTarget? (b : Blueprint) (source : String) (symbol : Char) : Option String :=
  (b.transitions.filter fun t => t.source = source ∧ t.symbol = symbol).getLast?.map
    NamedTransition.target

/-- An automaton is what a blueprint asks for. -/
structure Specifies (b : Blueprint) (d : Automaton) : Prop where
  /-- The states are the declared ones in order, and those that are called accepting are flagged. -/
  states_eq : d.states = b.states.map fun name => ⟨name, decide (name ∈ b.accepting)⟩
  /-- The columns follow the first mention of the symbols, those of the transitions last. -/
  symbols_eq : d.alphabet.symbols =
    (b.symbols ++ b.transitions.map NamedTransition.symbol).eraseDups
  start_iff : ∀ id, d.start = some id ↔ ∃ name, b.start = some name ∧ b.states[id]? = some name
  isAccepting_iff :
    ∀ id, d.isAccepting id = true ↔ ∃ name ∈ b.accepting, b.states[id]? = some name
  /-- An edge leads to the state that the last such transition names, and there are no others. -/
  successor_iff : ∀ p c q, d.successor p c = some q ↔ ∃ source target,
    b.states[p]? = some source ∧ b.lastTarget? source c = some target ∧ b.states[q]? = some target

/-! ### Numbers and names -/

/-- A name can be read back from its number, where no state is declared twice. -/
theorem idOf?_eq_some_iff (h : b.states.Nodup) : b.idOf? n = some id ↔ b.states[id]? = some n := by
  rw [idOf?, List.idxOf?_eq_some_iff, List.getElem?_eq_some_iff]
  constructor
  · rintro ⟨hid, hn, -⟩
    exact ⟨hid, hn⟩
  · rintro ⟨hid, hn⟩
    refine ⟨hid, hn, fun i hi hin => ?_⟩
    have heq : id = i := h.getElem_inj_iff.mp (hn.trans hin.symm)
    exact Nat.ne_of_gt hi heq

/-! ### The first fault -/

theorem firstRepeated_append (seen before names : List String) :
    firstRepeated seen (before ++ names) =
      (firstRepeated seen before).or (firstRepeated (before.reverse ++ seen) names) := by
  induction before generalizing seen with
  | nil => rfl
  | cons m before ih =>
    rw [List.cons_append, firstRepeated, firstRepeated, List.reverse_cons, List.append_assoc,
      List.singleton_append]
    split
    · rfl
    · exact ih (m :: seen)

/-- Nothing is repeated before the first name that is. -/
theorem exists_of_firstRepeated {seen names : List String} (h : firstRepeated seen names = some n) :
    ∃ before after, names = before ++ n :: after ∧ firstRepeated seen before = none ∧
      (n ∈ seen ∨ n ∈ before) := by
  induction names generalizing seen with
  | nil => exact nomatch h
  | cons m names ih =>
    rw [firstRepeated] at h
    split at h
    · next hm =>
      obtain rfl := Option.some.inj h
      exact ⟨[], names, rfl, rfl, Or.inl (List.contains_iff_mem.mp hm)⟩
    · next hm =>
      obtain ⟨before, after, rfl, hnone, hn⟩ := ih h
      refine ⟨m :: before, after, rfl, ?_, ?_⟩
      · rw [firstRepeated, if_neg hm, hnone]
      · rw [List.mem_cons] at hn ⊢
        tauto

/-- The first name that equals an earlier one. -/
theorem firstRepeated_eq_some_iff {names : List String} :
    firstRepeated [] names = some n ↔
      ∃ before after, names = before ++ n :: after ∧ before.Nodup ∧ n ∈ before := by
  constructor
  · intro h
    obtain ⟨before, after, hnames, hnone, hn⟩ := exists_of_firstRepeated h
    exact ⟨before, after, hnames, (firstRepeated_eq_none_iff.mp hnone).1,
      hn.resolve_left List.not_mem_nil⟩
  · rintro ⟨before, after, rfl, hnodup, hn⟩
    have hnone : firstRepeated [] before = none :=
      firstRepeated_eq_none_iff.mpr ⟨hnodup, fun _ _ => List.not_mem_nil⟩
    rw [firstRepeated_append, hnone, Option.none_or, firstRepeated, if_pos]
    simpa using hn

theorem startFault?_eq_none_iff :
    b.start.toList.findSome? (b.undeclared? .unknownStart) = none ↔
      ∀ n, b.start = some n → n ∈ b.states := by
  simp only [List.findSome?_eq_none_iff, Option.mem_toList, undeclared?_eq_none_iff]

theorem acceptingFault?_eq_none_iff :
    b.accepting.findSome? (b.undeclared? .unknownAccepting) = none ↔
      ∀ n ∈ b.accepting, n ∈ b.states := by
  simp only [List.findSome?_eq_none_iff, undeclared?_eq_none_iff]

theorem transitionFault?_eq_none_iff :
    b.transitions.findSome? b.edgeFault? = none ↔
      ∀ t ∈ b.transitions, t.source ∈ b.states ∧ t.target ∈ b.states := by
  simp only [List.findSome?_eq_none_iff, edgeFault?_eq_none_iff]

theorem firstRepeated_states_eq_none_iff : firstRepeated [] b.states = none ↔ b.states.Nodup := by
  rw [firstRepeated_eq_none_iff]
  exact and_iff_left fun _ _ => List.not_mem_nil

/-- **A blueprint can be built if it is sound.** -/
theorem exists_build_iff (b : Blueprint) : (∃ d, b.build = .ok d) ↔ b.IsSound := by
  rw [(failsWith_build b).exists_ok_iff, Option.or_eq_none_iff, Option.map_eq_none_iff,
    firstRepeated_states_eq_none_iff, head?_faults, Option.or_eq_none_iff, Option.or_eq_none_iff,
    startFault?_eq_none_iff, acceptingFault?_eq_none_iff, transitionFault?_eq_none_iff]
  constructor
  · rintro ⟨hdistinct, hstart, haccepting, htransitions⟩
    exact ⟨hdistinct, hstart, haccepting, htransitions⟩
  · intro h
    exact ⟨h.distinct, h.start, h.accepting, h.transitions⟩

/-- **Building fails with the first fault.** -/
theorem build_eq_error_iff (b : Blueprint) : b.build = .error fault ↔ b.FirstFault fault := by
  rw [failsWith_build b fault, head?_faults, Option.or_eq_some_iff, Option.or_eq_some_iff,
    Option.or_eq_some_iff, startFault?_eq_none_iff, acceptingFault?_eq_none_iff,
    Option.map_eq_some_iff, Option.map_eq_none_iff, firstRepeated_states_eq_none_iff]
  constructor
  · rintro (⟨n, hn, rfl⟩ | ⟨hdistinct, h | ⟨hstart, h | ⟨haccepting, h⟩⟩⟩)
    · obtain ⟨before, after, hstates, hnodup, hmem⟩ := firstRepeated_eq_some_iff.mp hn
      exact .duplicateState hstates hnodup hmem
    · obtain ⟨n, hn, hfault⟩ := List.exists_of_findSome?_eq_some h
      obtain ⟨hundeclared, rfl⟩ := undeclared?_eq_some_iff.mp hfault
      exact .unknownStart hdistinct (Option.mem_toList.mp hn) hundeclared
    · obtain ⟨before, n, after, heq, hfault, hbefore⟩ := List.findSome?_eq_some_iff.mp h
      obtain ⟨hundeclared, rfl⟩ := undeclared?_eq_some_iff.mp hfault
      exact .unknownAccepting hdistinct hstart heq
        (fun m hm => undeclared?_eq_none_iff.mp (hbefore m hm)) hundeclared
    · obtain ⟨before, t, after, heq, hfault, hbefore⟩ := List.findSome?_eq_some_iff.mp h
      have hdeclared := fun t' ht' => edgeFault?_eq_none_iff.mp (hbefore t' ht')
      rcases edgeFault?_eq_some_iff.mp hfault with ⟨hsource, rfl⟩ | ⟨hsource, htarget, rfl⟩
      · exact .unknownSource hdistinct hstart haccepting heq hdeclared hsource
      · exact .unknownTarget hdistinct hstart haccepting heq hdeclared hsource htarget
  · intro h
    cases h with
    | duplicateState states_eq distinct repeated =>
      exact Or.inl ⟨_, firstRepeated_eq_some_iff.mpr ⟨_, _, states_eq, distinct, repeated⟩, rfl⟩
    | unknownStart distinct start_eq undeclared =>
      refine Or.inr ⟨distinct, Or.inl ?_⟩
      rw [start_eq, Option.toList_some, List.findSome?_singleton]
      exact undeclared?_eq_some_iff.mpr ⟨undeclared, rfl⟩
    | unknownAccepting distinct start accepting_eq declared undeclared =>
      refine Or.inr ⟨distinct, Or.inr ⟨start, Or.inl ?_⟩⟩
      exact List.findSome?_eq_some_iff.mpr ⟨_, _, _, accepting_eq,
        undeclared?_eq_some_iff.mpr ⟨undeclared, rfl⟩,
        fun m hm => undeclared?_eq_none_iff.mpr (declared m hm)⟩
    | unknownSource distinct start accepting transitions_eq declared undeclared =>
      refine Or.inr ⟨distinct, Or.inr ⟨start, Or.inr ⟨accepting, ?_⟩⟩⟩
      exact List.findSome?_eq_some_iff.mpr ⟨_, _, _, transitions_eq,
        edgeFault?_eq_some_iff.mpr (Or.inl ⟨undeclared, rfl⟩),
        fun t' ht' => edgeFault?_eq_none_iff.mpr (declared t' ht')⟩
    | unknownTarget distinct start accepting transitions_eq declared source undeclared =>
      refine Or.inr ⟨distinct, Or.inr ⟨start, Or.inr ⟨accepting, ?_⟩⟩⟩
      exact List.findSome?_eq_some_iff.mpr ⟨_, _, _, transitions_eq,
        edgeFault?_eq_some_iff.mpr (Or.inr ⟨source, undeclared, rfl⟩),
        fun t' ht' => edgeFault?_eq_none_iff.mpr (declared t' ht')⟩

/-! ### What is built -/

/-- What a blueprint lists, with the number of the state for each name that is declared. -/
def listing (b : Blueprint) : Listing where
  names := b.states
  symbols := b.symbols
  starts := (b.start.bind b.idOf?).toList
  accepted := b.accepting.filterMap b.idOf?
  edges := b.transitions.filterMap b.edge?

/-- The edge of a transition between declared states. -/
def edge (b : Blueprint) (t : NamedTransition) : Transition :=
  ⟨b.states.idxOf t.source, t.symbol, b.states.idxOf t.target⟩

theorem lt_of_idOf?_eq (h : b.idOf? n = some id) : id < b.states.length :=
  (List.idxOf?_eq_some_iff.mp h).1

theorem within_listing (b : Blueprint) : b.listing.Within b.states.length where
  starts_lt id hid := by
    obtain ⟨n, -, hn⟩ := Option.bind_eq_some_iff.mp (Option.mem_toList.mp hid)
    exact lt_of_idOf?_eq hn
  accepted_lt id hid := by
    obtain ⟨n, -, hn⟩ := List.mem_filterMap.mp hid
    exact lt_of_idOf?_eq hn
  edges_lt t ht := by
    obtain ⟨t', -, ht'⟩ := List.mem_filterMap.mp ht
    obtain ⟨p, hp, hedge⟩ := Option.bind_eq_some_iff.mp ht'
    obtain ⟨q, hq, rfl⟩ := Option.map_eq_some_iff.mp hedge
    exact ⟨lt_of_idOf?_eq hp, lt_of_idOf?_eq hq⟩

/-- **What is built is described by the listing of the blueprint.** -/
theorem describes_build (h : b.build = .ok d) : (Listing.empty.extend b.listing).Describes d := by
  rw [eq_editAll_of_build h]
  exact b.within_listing.describes_editAll

theorem exists_of_lastTarget?_eq {source target : String} {c : Char}
    (h : b.lastTarget? source c = some target) : ∃ t ∈ b.transitions, t.target = target := by
  obtain ⟨t, ht, htarget⟩ := Option.map_eq_some_iff.mp h
  exact ⟨t, (List.mem_filter.mp (List.mem_of_getLast? ht)).1, htarget⟩

namespace IsSound

theorem idOf?_eq (h : b.IsSound) (hn : n ∈ b.states) : b.idOf? n = some (b.states.idxOf n) :=
  (idOf?_eq_some_iff h.distinct).mpr (List.getElem?_idxOf hn)

theorem idxOf_eq_iff (h : b.IsSound) (hn : n ∈ b.states) :
    b.states.idxOf n = id ↔ b.states[id]? = some n := by
  rw [← idOf?_eq_some_iff h.distinct, h.idOf?_eq hn, Option.some_inj]

theorem filterMap_edge? (h : b.IsSound) :
    b.transitions.filterMap b.edge? = b.transitions.map b.edge := by
  rw [← List.filterMap_eq_map]
  refine List.filterMap_congr fun t ht => ?_
  obtain ⟨hsource, htarget⟩ := h.transitions t ht
  rw [edge?, h.idOf?_eq hsource, h.idOf?_eq htarget]
  rfl

theorem mem_accepted_iff (h : b.IsSound) :
    id ∈ b.accepting.filterMap b.idOf? ↔ ∃ n ∈ b.accepting, b.states[id]? = some n := by
  simp only [List.mem_filterMap, idOf?_eq_some_iff h.distinct]

/-- The flags of the states are those of the names that are called accepting. -/
theorem mapIdx_state (h : b.IsSound) :
    (b.states.mapIdx fun id name => State.mk name (id ∈ b.accepting.filterMap b.idOf?)) =
      b.states.map fun name => ⟨name, decide (name ∈ b.accepting)⟩ := by
  refine List.ext_getElem? fun id => ?_
  rw [List.getElem?_mapIdx, List.getElem?_map]
  cases hid : b.states[id]? with
  | none => rfl
  | some name =>
    -- no other name has this number
    have hmem : id ∈ b.accepting.filterMap b.idOf? ↔ name ∈ b.accepting := by
      rw [h.mem_accepted_iff, hid]
      simp
    exact congrArg (fun accepting => some (State.mk name accepting)) (decide_eq_decide.mpr hmem)

/-- The last edge from the number of a state is that of the last transition from this state. -/
theorem target?_listing (h : b.IsSound) {p : StateId} {source : String}
    (hp : b.states[p]? = some source) (c : Char) :
    (Listing.empty.extend b.listing).target? p c =
      (b.lastTarget? source c).map fun target => b.states.idxOf target := by
  have hfilter : (b.transitions.filter fun t => b.states.idxOf t.source = p ∧ t.symbol = c) =
      b.transitions.filter fun t => t.source = source ∧ t.symbol = c := by
    refine List.filter_congr fun t ht => decide_eq_decide.mpr (and_congr_left fun _ => ?_)
    rw [h.idxOf_eq_iff (h.transitions t ht).1, hp, Option.some_inj]
    exact eq_comm
  show ((b.transitions.filterMap b.edge?).filter _).getLast?.map _ = _
  rw [h.filterMap_edge?, List.filter_map, List.getLast?_map, Option.map_map, lastTarget?, ← hfilter,
    Option.map_map]
  rfl

/-- The target can be read back from the number to which the edge leads. -/
theorem target?_listing_eq_some_iff (h : b.IsSound) {p q : StateId} {source : String}
    (hp : b.states[p]? = some source) {c : Char} :
    (Listing.empty.extend b.listing).target? p c = some q ↔
      ∃ target, b.lastTarget? source c = some target ∧ b.states[q]? = some target := by
  rw [h.target?_listing hp, Option.map_eq_some_iff]
  refine exists_congr fun target => and_congr_right fun htarget => ?_
  obtain ⟨t, ht, rfl⟩ := exists_of_lastTarget?_eq htarget
  exact h.idxOf_eq_iff (h.transitions t ht).2

end IsSound

/-- **What is built is what the blueprint asks for.** -/
theorem specifies_build (h : b.build = .ok d) : b.Specifies d := by
  have hsound : b.IsSound := b.exists_build_iff.mp ⟨d, h⟩
  have hd := describes_build h
  refine ⟨hd.states_eq.trans hsound.mapIdx_state, ?_, fun id => ?_, fun id => ?_, fun p c q => ?_⟩
  · rw [hd.symbols_eq]
    show (b.symbols ++ (b.transitions.filterMap b.edge?).map Transition.symbol).eraseDups = _
    rw [hsound.filterMap_edge?, List.map_map]
    rfl
  · rw [hd.start_eq]
    have hlast : (b.start.bind b.idOf?).toList.getLast? = b.start.bind b.idOf? := by
      cases b.start.bind b.idOf? <;> rfl
    show (b.start.bind b.idOf?).toList.getLast? = some id ↔ _
    rw [hlast, Option.bind_eq_some_iff]
    simp only [idOf?_eq_some_iff hsound.distinct]
  · exact (hd.isAccepting_iff id).trans hsound.mem_accepted_iff
  · cases hp : b.states[p]? with
    | none =>
      -- an edge leaves a state, and this number is none of a state
      have hlt : ¬ p < d.stateCount := by
        rw [← hd.length_names]
        exact Nat.not_lt.mpr (List.getElem?_eq_none_iff.mp hp)
      have hnone : d.successor p c ≠ some q := fun hq =>
        hlt ((wellFormed_build h).lt_of_successor hq).1
      simp [hnone]
    | some source =>
      rw [hd.successor_eq, hsound.target?_listing_eq_some_iff hp]
      simp

/-! ### Sequences of calls -/

/-- **Building is exact.**  A sequence of calls leads to an automaton if the declared states are
distinct and every name that is referred to is declared, before or after; otherwise the first fault
is reported.  The automaton has what the calls ask for: the declared states in order, the symbols as
they are first mentioned, the start state that is chosen last, the accepting states, and from each
state on each symbol the target of the last such transition. -/
theorem build_exact (calls : List Call) :
    ((∃ d, (ofCalls calls).build = .ok d) ↔ (sections calls).IsSound) ∧
    (∀ fault, (ofCalls calls).build = .error fault ↔ (sections calls).FirstFault fault) ∧
    ∀ d, (ofCalls calls).build = .ok d → (sections calls).Specifies d := by
  rw [ofCalls_eq]
  exact ⟨exists_build_iff _, fun _ => build_eq_error_iff _, fun _ hd => specifies_build hd⟩

/-- A turnstile whose start state is chosen twice and one of whose transitions is replaced. -/
def turnstile : List Call :=
  [.transition ⟨"locked", 'c', "locked"⟩, .start "open", .state "locked", .state "open",
    .symbol 'p', .accepting "open", .transition ⟨"locked", 'c', "open"⟩, .start "locked"]

/-- The turnstile is built and opens on a coin.  With another accepting state and another
transition, neither of them declared, the accepting state is the fault. -/
theorem build_exact_turnstile :
    (∃ d, (ofCalls turnstile).build = .ok d ∧
      d.states = [⟨"locked", false⟩, ⟨"open", true⟩] ∧ d.alphabet.symbols = ['p', 'c'] ∧
      d.start = some 0 ∧ d.successor 0 'c' = some 1 ∧ d.successor 1 'p' = none) ∧
    (ofCalls (turnstile ++ [.transition ⟨"broken", 'c', "open"⟩, .accepting "jammed"])).build =
      .error (.unknownAccepting "jammed") := by
  have hsound : (sections turnstile).IsSound := by
    refine ⟨by decide, fun n hn => ?_, by decide, by decide⟩
    obtain rfl : "locked" = n := Option.some.inj hn
    decide
  obtain ⟨hok, -, hspecifies⟩ := build_exact turnstile
  obtain ⟨d, hd⟩ := hok.mpr hsound
  have hspec := hspecifies d hd
  refine ⟨⟨d, hd, hspec.states_eq, hspec.symbols_eq, ?_, ?_, ?_⟩, ?_⟩
  · exact (hspec.start_iff 0).mpr ⟨"locked", rfl, rfl⟩
  · exact (hspec.successor_iff 0 'c' 1).mpr ⟨"locked", "open", rfl, by decide, rfl⟩
  · refine Option.eq_none_iff_forall_ne_some.mpr fun q hq => ?_
    obtain ⟨source, target, hsource, htarget, -⟩ := (hspec.successor_iff 1 'p' q).mp hq
    obtain rfl : "open" = source := Option.some.inj hsource
    exact nomatch (show (sections turnstile).lastTarget? "open" 'p' = none by decide).symm.trans
      htarget
  · have haccepting : (sections (turnstile ++ [.transition ⟨"broken", 'c', "open"⟩,
        .accepting "jammed"])).accepting = ["open"] ++ "jammed" :: [] := rfl
    refine ((build_exact _).2.1 _).mpr
      (.unknownAccepting (by decide) (fun n hn => ?_) haccepting (by decide) (by decide))
    obtain rfl : "locked" = n := Option.some.inj hn
    decide

end AutomatonKit.Blueprint
