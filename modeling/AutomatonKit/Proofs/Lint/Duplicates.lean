import Mathlib
import AutomatonKit.Proofs.Description.References
import AutomatonKit.Proofs.Lint.Report

/-!
# Names that differ by case alone

Two loops go through the states of a description in the same order, each with a table of its own.
The check of names remembers the first state under a name and reports every later one.  The reader
lets each state take the name over from the one before, so a name denotes the last state under it.

The invariant of the first loop is that its table gives the first state so far (`FindsFirst`), and
from it the report is exact: `mem_duplicates_iff`.  The invariant of the second loop is
`NamesAgree`, which `denotesAfter_iff` states for whole texts.  Neither invariant mentions a key:
both speak of names that are the same in lower case (`statesNamed`), and so the two loops can be
compared.  `duplicateIssues_exact` puts them together.  Where a name has several states, the least
of them is reported with each of the others, and the greatest of them is what the name denotes.
-/

namespace AutomatonKit.Lint

open Description Text

variable {d : Automaton} {name : String} {id first second : StateId}

/-! ### The first state under a name -/

/-- The number of the first state under a name, in any spelling. -/
def firstNamed? (states : List State) (name : String) : Option StateId :=
  states.findIdx? fun state => lowercase state.name.toList == lowercase name.toList

/-- A state that is added comes first under a name only if there is none before. -/
theorem firstNamed?_append_singleton (before : List State) (state : State) (name : String) :
    firstNamed? (before ++ [state]) name =
      (firstNamed? before name).or
        (if lowercase state.name.toList = lowercase name.toList then some before.length
        else none) := by
  unfold firstNamed?
  rw [List.findIdx?_append, List.findIdx?_singleton]
  simp only [beq_iff_eq]
  split <;> simp

theorem firstNamed?_congr {states : List State} {name' : String}
    (h : lowercase name.toList = lowercase name'.toList) :
    firstNamed? states name = firstNamed? states name' := by
  unfold firstNamed?
  rw [h]

theorem mem_statesNamed_iff_getElem :
    id ∈ statesNamed d name ↔
      ∃ _ : id < d.states.length,
        lowercase d.states[id].name.toList = lowercase name.toList := by
  constructor
  · rintro ⟨state, hstate, hkey⟩
    obtain ⟨hlt, rfl⟩ := List.getElem?_eq_some_iff.mp hstate
    exact ⟨hlt, hkey⟩
  · rintro ⟨hlt, hkey⟩
    exact ⟨_, List.getElem?_eq_getElem hlt, hkey⟩

/-- What is found before a given number is the least state under the name. -/
theorem firstNamed?_take_eq_some_iff :
    firstNamed? (d.states.take second) name = some first ↔
      first < second ∧ IsLeast (statesNamed d name) first := by
  rw [firstNamed?, List.findIdx?_eq_some_iff_getElem]
  simp only [List.length_take, lt_min_iff, List.getElem_take, beq_iff_eq]
  constructor
  · rintro ⟨⟨hlt, hlen⟩, hkey, hmin⟩
    refine ⟨hlt, mem_statesNamed_iff_getElem.mpr ⟨hlen, hkey⟩, fun j hj => ?_⟩
    obtain ⟨hj, hjkey⟩ := mem_statesNamed_iff_getElem.mp hj
    by_contra hlt'
    exact hmin j (Nat.lt_of_not_le hlt') hjkey
  · rintro ⟨hlt, hmem, hmin⟩
    obtain ⟨hlen, hkey⟩ := mem_statesNamed_iff_getElem.mp hmem
    refine ⟨⟨hlt, hlen⟩, hkey, fun j hj hjkey => ?_⟩
    have hle := hmin (mem_statesNamed_iff_getElem.mpr ⟨hj.trans hlen, hjkey⟩)
    exact absurd hj (Nat.not_lt.mpr hle)

/-! ### The loop of the check -/

/-- A state whose name is a spelling of the name of a state before. -/
structure Duplicate where
  /-- The spelling of the second state. -/
  name : String
  first : StateId
  second : StateId
deriving DecidableEq

def Duplicate.issue (duplicate : Duplicate) : Issue :=
  .duplicateName duplicate.name duplicate.first duplicate.second

/-- What the check reports about one of some states. -/
def duplicate? (states : List State) (entry : State × StateId) : Option Duplicate :=
  (firstNamed? (states.take entry.2) entry.1.name).map fun first =>
    ⟨entry.1.name, first, entry.2⟩

/-- The duplicates among the names of an automaton. -/
def duplicates (d : Automaton) : List Duplicate :=
  d.numberedStates.filterMap (duplicate? d.states)

/-- The table of the check holds the first of some states under each name. -/
def FindsFirst (firstSeen : List (List Char × StateId)) (states : List State) : Prop :=
  ∀ name : String, firstSeen.lookup (lowercase name.toList) = firstNamed? states name

section

variable {firstSeen : List (List Char × StateId)} {before : List State} {state : State}

/-- Where the name of a state is found already, the table need not change. -/
theorem FindsFirst.append_of_some (h : FindsFirst firstSeen before)
    (hfirst : firstNamed? before state.name = some first) :
    FindsFirst firstSeen (before ++ [state]) := by
  intro name
  rw [h, firstNamed?_append_singleton]
  split
  · next hkey =>
    rw [← firstNamed?_congr hkey, hfirst]
    rfl
  · rw [Option.or_none]

/-- Where the name of a state is new, the state is the first one under it. -/
theorem FindsFirst.append_of_none (h : FindsFirst firstSeen before)
    (hfirst : firstNamed? before state.name = none) :
    FindsFirst ((lowercase state.name.toList, before.length) :: firstSeen) (before ++ [state]) := by
  intro name
  rw [lookup_cons_eq_ite, firstNamed?_append_singleton, h]
  split
  · next hkey =>
    rw [if_pos hkey.symm, firstNamed?_congr hkey, hfirst]
    rfl
  · next hkey => rw [if_neg (Ne.symm hkey), Option.or_none]

end

/-- **The loop finds the first state under each name.**  If this holds of the states before, each of
the others is reported with the first state under its name. -/
theorem duplicatesAfter_eq (before rest : List State) (firstSeen : List (List Char × StateId))
    (h : FindsFirst firstSeen before) :
    duplicatesAfter firstSeen (rest.zipIdx before.length) =
      ((rest.zipIdx before.length).filterMap (duplicate? (before ++ rest))).map
        Duplicate.issue := by
  induction rest generalizing before firstSeen with
  | nil => rfl
  | cons state rest ih =>
    have hfound : duplicate? (before ++ state :: rest) (state, before.length) =
        (firstNamed? before state.name).map fun first => ⟨state.name, first, before.length⟩ := by
      rw [duplicate?, List.take_left']
      rfl
    have hnext := ih (before ++ [state])
    rw [List.length_append, List.length_singleton, List.append_assoc, List.singleton_append]
      at hnext
    rw [List.zipIdx_cons, duplicatesAfter, h]
    cases hfirst : firstNamed? before state.name with
    | some first =>
      rw [hfirst] at hfound
      rw [List.filterMap_cons_some hfound, List.map_cons]
      exact congrArg _ (hnext firstSeen (h.append_of_some hfirst))
    | none =>
      rw [hfirst] at hfound
      rw [List.filterMap_cons_none hfound]
      exact hnext _ (h.append_of_none hfirst)

theorem duplicateIssues_eq (d : Automaton) :
    duplicateIssues d = (duplicates d).map Duplicate.issue :=
  duplicatesAfter_eq [] d.states [] fun _ => rfl

/-! ### What is reported -/

theorem mem_duplicates_iff {x : Duplicate} :
    x ∈ duplicates d ↔ (∃ state, d.state? x.second = some state ∧ state.name = x.name) ∧
      x.first < x.second ∧ IsLeast (statesNamed d x.name) x.first := by
  rw [duplicates, List.mem_filterMap]
  constructor
  · rintro ⟨⟨state, second⟩, hentry, hx⟩
    obtain ⟨first, hfirst, rfl⟩ := Option.map_eq_some_iff.mp hx
    exact ⟨⟨state, mem_numberedStates_iff.mp hentry, rfl⟩, firstNamed?_take_eq_some_iff.mp hfirst⟩
  · rintro ⟨⟨state, hstate, hname⟩, hfirst⟩
    refine ⟨(state, x.second), mem_numberedStates_iff.mpr hstate, ?_⟩
    rw [duplicate?, hname, firstNamed?_take_eq_some_iff.mpr hfirst]
    rfl

/-- No state is reported twice, and the reports are in the order of the states. -/
theorem pairwise_duplicates (d : Automaton) :
    ((duplicates d).map Duplicate.second).Pairwise (· < ·) := by
  have hids : (d.numberedStates.map Prod.snd).Pairwise (· < ·) := by
    rw [map_snd_numberedStates]
    exact List.pairwise_lt_range
  rw [List.pairwise_map, duplicates, List.pairwise_filterMap]
  refine (List.pairwise_map.mp hids).imp ?_
  intro entry entry' hlt x hx x' hx'
  obtain ⟨first, -, rfl⟩ := Option.map_eq_some_iff.mp hx
  obtain ⟨first', -, rfl⟩ := Option.map_eq_some_iff.mp hx'
  exact hlt

/-- **The states that are reported** are those that have one before them under their name. -/
theorem exists_mem_duplicates_iff :
    (∃ x ∈ duplicates d, x.second = second) ↔
      ∃ state, d.state? second = some state ∧
        ∃ earlier ∈ statesNamed d state.name, earlier < second := by
  constructor
  · rintro ⟨x, hx, rfl⟩
    obtain ⟨⟨state, hstate, hname⟩, hlt, hleast⟩ := mem_duplicates_iff.mp hx
    exact ⟨state, hstate, x.first, hname ▸ hleast.1, hlt⟩
  · rintro ⟨state, hstate, earlier, hearlier, hlt⟩
    have hleast : IsLeast (statesNamed d state.name) (sInf (statesNamed d state.name)) :=
      ⟨Nat.sInf_mem ⟨earlier, hearlier⟩, fun _ hj => Nat.sInf_le hj⟩
    have hfirst : sInf (statesNamed d state.name) < second :=
      Nat.lt_of_le_of_lt (hleast.2 hearlier) hlt
    exact ⟨⟨state.name, _, second⟩, mem_duplicates_iff.mpr ⟨⟨state, hstate, rfl⟩, hfirst, hleast⟩,
      rfl⟩

/-- Nothing is reported if every state is the first one under its name. -/
theorem duplicates_eq_nil_iff :
    duplicates d = [] ↔
      ∀ id state, d.state? id = some state → ∀ j ∈ statesNamed d state.name, id ≤ j := by
  constructor
  · intro hnil id state hstate j hj
    by_contra hlt
    obtain ⟨x, hx, -⟩ :=
      exists_mem_duplicates_iff.mpr ⟨state, hstate, j, hj, Nat.lt_of_not_le hlt⟩
    rw [hnil] at hx
    exact List.not_mem_nil hx
  · intro hfirst
    apply List.eq_nil_iff_forall_not_mem.mpr
    intro x hx
    obtain ⟨state, hstate, j, hj, hlt⟩ := exists_mem_duplicates_iff.mp ⟨x, hx, rfl⟩
    exact absurd hlt (Nat.not_lt.mpr (hfirst x.second state hstate j hj))

/-- All names differ by more than case if every state is the first one under its name. -/
theorem nodup_lowercase_iff :
    (d.states.map fun s => lowercase s.name.toList).Nodup ↔
      ∀ id state, d.state? id = some state → ∀ j ∈ statesNamed d state.name, id ≤ j := by
  rw [List.nodup_iff_pairwise_ne, List.pairwise_map, List.pairwise_iff_getElem]
  constructor
  · intro hne id state hstate j hj
    obtain ⟨hid, rfl⟩ := List.getElem?_eq_some_iff.mp hstate
    obtain ⟨hj, hkey⟩ := mem_statesNamed_iff_getElem.mp hj
    by_contra hlt
    exact hne j id hj hid (Nat.lt_of_not_le hlt) hkey
  · intro hfirst i j hi hj hij hkey
    have hmem : i ∈ statesNamed d d.states[j].name := mem_statesNamed_iff_getElem.mpr ⟨hi, hkey⟩
    exact absurd hij (Nat.not_lt.mpr (hfirst j _ (List.getElem?_eq_getElem hj) i hmem))

/-- Where nothing is reported, every state is also the last one under its name, because the last one
is the first. -/
theorem isGreatest_of_duplicates_eq_nil {state : State} (hnil : duplicates d = [])
    (hstate : d.state? id = some state) : IsGreatest (statesNamed d state.name) id := by
  refine ⟨⟨state, hstate, rfl⟩, ?_⟩
  rintro j ⟨other, hother, hkey⟩
  exact duplicates_eq_nil_iff.mp hnil j other hother id ⟨state, hstate, hkey.symm⟩

/-! ### The check and the reader -/

/-- **The check of names is exact and goes with what names denote.**  For every automaton the states
that are reported are those with a state before them whose name is the same but for case.  Each is
reported once, in the order of the states, in its own spelling and with the least number under its
name.  So nothing is reported exactly if all names differ by more than case.

Now take the automaton of a text.  A name that is reported denotes, on every line that is appended,
a state that is declared with the reported one or after it, never the first one.  If nothing is
reported, every name denotes its own state.  And every name can be referred to on a line of its
own. -/
theorem duplicateIssues_exact :
    (∀ d, ∃ reported : List Duplicate, duplicateIssues d = reported.map Duplicate.issue ∧
      (reported.map Duplicate.second).Pairwise (· < ·) ∧
      (∀ second, (∃ x ∈ reported, x.second = second) ↔ ∃ state, d.state? second = some state ∧
        ∃ earlier ∈ statesNamed d state.name, earlier < second) ∧
      (∀ x ∈ reported, ∃ state, d.state? x.second = some state ∧ x.name = state.name ∧
        IsLeast (statesNamed d state.name) x.first) ∧
      (duplicateIssues d = [] ↔ (d.states.map fun s => lowercase s.name.toList).Nodup)) ∧
    ∀ text,
      (∀ name first second,
        .duplicateName name first second ∈ duplicateIssues (read text).automaton →
        ∃ id, DenotesAfter text name id ∧ second ≤ id ∧ id ≠ first) ∧
      (duplicateIssues (read text).automaton = [] → ∀ id state,
        (read text).automaton.state? id = some state → DenotesAfter text state.name id) ∧
      ∀ state ∈ (read text).automaton.states,
        ('\n' ∉ labelledLine startLabel state.name ∧
          Directive.ofLine (Text.trim (labelledLine startLabel state.name)) = .start state.name) ∧
        ('\n' ∉ labelledLine acceptingLabel state.name ∧
          Directive.ofLine (Text.trim (labelledLine acceptingLabel state.name)) =
            .accepting [state.name]) := by
  refine ⟨fun d => ⟨duplicates d, duplicateIssues_eq d, pairwise_duplicates d,
    fun second => exists_mem_duplicates_iff, fun x hx => ?_, ?_⟩, fun text => ⟨?_, ?_, ?_⟩⟩
  · obtain ⟨⟨state, hstate, hname⟩, -, hleast⟩ := mem_duplicates_iff.mp hx
    exact ⟨state, hstate, hname.symm, hname ▸ hleast⟩
  · rw [duplicateIssues_eq, List.map_eq_nil_iff, duplicates_eq_nil_iff, nodup_lowercase_iff]
  · intro name first second hmem
    rw [duplicateIssues_eq] at hmem
    obtain ⟨x, hx, hissue⟩ := List.mem_map.mp hmem
    obtain ⟨rfl, rfl, rfl⟩ := Issue.duplicateName.inj hissue
    obtain ⟨⟨state, hstate, hname⟩, hlt, -⟩ := mem_duplicates_iff.mp hx
    have hsecond : x.second ∈ statesNamed (read text).automaton x.name :=
      ⟨state, hstate, congrArg (fun name => lowercase name.toList) hname⟩
    obtain ⟨id, hdenotes, hle⟩ := exists_denotesAfter hsecond
    exact ⟨id, hdenotes, hle, Nat.ne_of_gt (Nat.lt_of_lt_of_le hlt hle)⟩
  · intro hnone id state hstate
    rw [duplicateIssues_eq, List.map_eq_nil_iff] at hnone
    exact denotesAfter_iff.mpr (isGreatest_of_duplicates_eq_nil hnone hstate)
  · intro state hstate
    have hitem := plainItem_of_mem_declaredNames (name_mem_declaredNames hstate)
    exact ⟨⟨(trim_labelledLine (by decide) hitem).2, ofLine_startLine hitem⟩,
      (trim_labelledLine (by decide) hitem).2, ofLine_acceptingLine hitem⟩

/-- A text in which a name is declared in three spellings, the last one after a reference. -/
def choirText : String :=
  "States: alto, bass, Alto\nStart state: ALTO\nStates: ALTO"

/-- In `choirText` the first spelling is reported with each of the others.  The reference in the text
means the second one, and an appended line means the third one. -/
theorem duplicateIssues_exact_choir :
    duplicateIssues (read choirText).automaton =
        [.duplicateName "Alto" 0 2, .duplicateName "ALTO" 0 3] ∧
      (read choirText).automaton.start = some 2 ∧
      DenotesAfter choirText "Alto" 3 ∧
      (read (appendLine choirText (labelledLine startLabel "Alto"))).automaton.start = some 3 := by
  have hissues : duplicateIssues (read choirText).automaton =
      [.duplicateName "Alto" 0 2, .duplicateName "ALTO" 0 3] := by decide +kernel
  have hresolve : (read choirText).names.resolve "Alto" = some 3 := by decide +kernel
  have hstate : ⟨"Alto", false⟩ ∈ (read choirText).automaton.states := by decide +kernel
  obtain ⟨hreported, -, hlines⟩ := duplicateIssues_exact.2 choirText
  obtain ⟨id, hdenotes, -, -⟩ := hreported "Alto" 0 2 (by rw [hissues]; exact List.mem_cons_self)
  obtain rfl : id = 3 := Option.some.inj (hdenotes.resolve_eq.symm.trans hresolve)
  obtain ⟨⟨hlineFeed, hline⟩, -⟩ := hlines ⟨"Alto", false⟩ hstate
  exact ⟨hissues, by decide +kernel, hdenotes, hdenotes.start_eq _ hlineFeed hline⟩

end AutomatonKit.Lint
