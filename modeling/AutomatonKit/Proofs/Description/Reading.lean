import Mathlib
import AutomatonKit.Description.Reader
import AutomatonKit.Proofs.Automaton.Building

/-!
# What reading does to the automaton and to the names

A few facts describe a reading step by step, and everything else about reading a description is
derived from them.

* `automaton_apply` and `warnings_apply`: a directive changes the automaton by a run of edits,
  `Names.edits`, and adds a warning for each of `Names.causes`.  Both depend on the names declared
  so far and on nothing else.
* `namesAgree_foldl_readLine`: at every moment a name is resolved to the last state that was
  declared under it, in any spelling (`denoted?`).
* `wellFormed_foldl_readLine`: the automaton is well-formed.
* `exists_warnings_foldl_readLine`: warnings are only added, and each names the line it is about.

For a line as it stands in a text these facts are `automaton_readLine` and `warnings_readLine`.
`foldl_readLine_induction` is the induction over the lines of a text.
-/

namespace AutomatonKit.Description

open Text

/-! ### The state that a name denotes -/

/-- Whether the state of a given number is declared under a name, upper and lower case being the
same. -/
def isNamed (declared : List String) (name : String) (id : StateId) : Bool :=
  (declared[id]?).any fun other => lowercase other.toList == lowercase name.toList

/-- The state that a name denotes where states are declared with the given names: the greatest
number that is declared under the name. -/
def denoted? (declared : List String) (name : String) : Option StateId :=
  ((List.range declared.length).filter (isNamed declared name)).max?

theorem isNamed_iff {declared : List String} {name : String} {id : StateId} :
    isNamed declared name id = true ↔
      ∃ n, declared[id]? = some n ∧ lowercase n.toList = lowercase name.toList := by
  rw [isNamed, Option.any_eq_true]
  simp only [beq_iff_eq]

theorem denoted?_eq_some_iff {declared : List String} {name : String} {id : StateId} :
    denoted? declared name = some id ↔
      isNamed declared name id = true ∧ ∀ j, isNamed declared name j = true → j ≤ id := by
  have hlt : ∀ {j}, isNamed declared name j = true → j < declared.length := by
    intro j hj
    obtain ⟨n, hn, -⟩ := isNamed_iff.mp hj
    exact (List.getElem?_eq_some_iff.mp hn).1
  unfold denoted?
  rw [List.max?_eq_some_iff]
  simp only [List.mem_filter, List.mem_range]
  exact ⟨fun h => ⟨h.1.2, fun j hj => h.2 j ⟨hlt hj, hj⟩⟩,
    fun h => ⟨⟨hlt h.1, h.1⟩, fun j hj => h.2 j hj.2⟩⟩

theorem lt_of_denoted? {declared : List String} {name : String} {id : StateId}
    (h : denoted? declared name = some id) : id < declared.length := by
  obtain ⟨n, hn, -⟩ := isNamed_iff.mp (denoted?_eq_some_iff.mp h).1
  exact (List.getElem?_eq_some_iff.mp hn).1

/-- A new declaration hides the earlier ones under its name and no others. -/
theorem denoted?_append_singleton (declared : List String) (new name : String) :
    denoted? (declared ++ [new]) name =
      if lowercase name.toList = lowercase new.toList then some declared.length
      else denoted? declared name := by
  have hold : ∀ id ∈ List.range declared.length,
      isNamed (declared ++ [new]) name id = isNamed declared name id := by
    intro id hid
    rw [isNamed, isNamed, List.getElem?_append_left (List.mem_range.mp hid)]
  have hnew : isNamed (declared ++ [new]) name declared.length =
      decide (lowercase name.toList = lowercase new.toList) := by
    rw [isNamed, List.getElem?_concat_length, Option.any_some, Bool.eq_iff_iff, beq_iff_eq,
      decide_eq_true_eq, eq_comm]
  unfold denoted?
  rw [List.length_append, List.length_singleton, List.range_succ, List.filter_append,
    List.filter_congr hold, List.filter_singleton, hnew]
  split
  · next h =>
    -- the new number is greater than all others
    rw [decide_eq_true h, List.max?_eq_some_iff]
    refine ⟨by simp, fun b hb => ?_⟩
    rcases List.mem_append.mp hb with hb | hb
    · exact Nat.le_of_lt (List.mem_range.mp (List.mem_filter.mp hb).1)
    · exact Nat.le_of_eq (List.mem_singleton.mp hb)
  · next h =>
    rw [decide_eq_false h]
    simp

/-- Where all names differ, each state is denoted by its own name. -/
theorem denoted?_of_nodup {declared : List String}
    (h : (declared.map fun n => lowercase n.toList).Nodup) {id : StateId} {name : String}
    (hid : declared[id]? = some name) : denoted? declared name = some id := by
  rw [denoted?_eq_some_iff, isNamed_iff]
  -- no other number is declared under the name, because no two names are alike
  refine ⟨⟨name, hid, rfl⟩, fun j hj => Nat.le_of_eq ?_⟩
  obtain ⟨n, hn, hsame⟩ := isNamed_iff.mp hj
  have hj' : (declared.map fun n => lowercase n.toList)[j]? = some (lowercase name.toList) := by
    rw [List.getElem?_map, hn, Option.map_some, hsame]
  have hid' : (declared.map fun n => lowercase n.toList)[id]? = some (lowercase name.toList) := by
    rw [List.getElem?_map, hid, Option.map_some]
  obtain ⟨hlt, hget⟩ := List.getElem?_eq_some_iff.mp hj'
  obtain ⟨hlt', hget'⟩ := List.getElem?_eq_some_iff.mp hid'
  exact h.getElem_inj_iff.mp (hget.trans hget'.symm)

/-- Where no other spelling of a name is declared, it denotes the state of exactly this name. -/
theorem denoted?_eq_idxOf? {declared : List String}
    (h : (declared.map fun n => lowercase n.toList).Nodup) {name : String}
    (hname : ∀ n ∈ declared, lowercase n.toList = lowercase name.toList → n = name) :
    denoted? declared name = declared.idxOf? name := by
  cases hid : declared.idxOf? name with
  | some id =>
    obtain ⟨hlt, hget, -⟩ := List.idxOf?_eq_some_iff.mp hid
    exact denoted?_of_nodup h (by rw [List.getElem?_eq_getElem hlt, hget])
  | none =>
    refine Option.eq_none_iff_forall_ne_some.mpr fun id hdenoted => ?_
    obtain ⟨n, hn, hsame⟩ := isNamed_iff.mp (denoted?_eq_some_iff.mp hdenoted).1
    have hmem := List.mem_of_getElem? hn
    rw [hname n hmem hsame] at hmem
    exact List.idxOf?_eq_none_iff.mp hid hmem

/-! ### The keys of the reader -/

/-- **The reader's keys** are the same for two names exactly if the names are the same in lower
case. -/
theorem nameKey_eq_iff {name name' : String} :
    nameKey name = nameKey name' ↔ lowercase name.toList = lowercase name'.toList :=
  String.ofList_inj

/-- What is found after an entry is put in front. -/
theorem lookup_cons_eq_ite {α β : Type} [BEq α] [LawfulBEq α] [DecidableEq α] (key new : α)
    (value : β) (entries : List (α × β)) :
    List.lookup key ((new, value) :: entries) =
      if key = new then some value else entries.lookup key := by
  rw [List.lookup_cons]
  by_cases hkey : key = new
  · rw [if_pos hkey, hkey, beq_self_eq_true]
  · rw [if_neg hkey, beq_false_of_ne hkey]

/-- A declaration takes over the lookup of its own name, in any spelling, and no others. -/
theorem Names.resolve_declare (names : Names) (new name : String) (id : StateId) :
    (names.declare new id).resolve name =
      if lowercase name.toList = lowercase new.toList then some id else names.resolve name := by
  rw [if_congr nameKey_eq_iff.symm rfl rfl]
  exact lookup_cons_eq_ite (nameKey name) (nameKey new) id names

/-! ### The edits of a directive -/

/-- The edits that a directive asks for, where names are looked up in `names`. -/
def Names.edits (names : Names) : Directive → List Edit
  | .states declared => Automaton.declaringEdits declared
  | .alphabet symbols => symbols.map .addSymbol
  | .start name => (names.resolve name).toList.map .setStart
  | .accepting accepted => (accepted.filterMap names.resolve).map .addAccepting
  | .transition source symbol target =>
    match names.resolveTransition source symbol target with
    | .ok t => [t.edit]
    | .error _ => []
  | .malformedTransition => []
  | .unrecognized => []

/-- What is skipped of a directive, where names are looked up in `names`. -/
def Names.causes (names : Names) : Directive → List Cause
  | .states _ => []
  | .alphabet _ => []
  | .start name => if (names.resolve name).isNone then [.unknownStart name] else []
  | .accepting accepted =>
    (accepted.filter fun name => (names.resolve name).isNone).map .unknownAccepting
  | .transition source symbol target =>
    match names.resolveTransition source symbol target with
    | .ok _ => []
    | .error cause => [cause]
  | .malformedTransition => [.malformedTransition]
  | .unrecognized => [.unrecognized]

/-- The edits that a line asks for. -/
def Names.editsOn (names : Names) (line : List Char) : List Edit :=
  names.edits (.ofLine (trim line))

/-- What is skipped of a line, where a blank line is no line at all. -/
def Names.causesOn (names : Names) (line : List Char) : List Cause :=
  if trim line = [] then [] else names.causes (.ofLine (trim line))

namespace Reading

def declared (r : Reading) : List String :=
  r.automaton.states.map State.name

theorem foldl_declare_automaton (r : Reading) (names : List String) :
    (names.foldl declare r).automaton = r.automaton.editAll (Automaton.declaringEdits names) := by
  induction names generalizing r with
  | nil => rfl
  | cons name names ih => exact ih (r.declare name)

theorem foldl_makeAccepting_names (number : Nat) (line : List Char) (r : Reading)
    (accepted : List String) :
    (accepted.foldl (makeAccepting number line) r).names = r.names := by
  induction accepted generalizing r with
  | nil => rfl
  | cons name accepted ih =>
    rw [List.foldl_cons, ih, makeAccepting]
    split <;> rfl

theorem foldl_makeAccepting_automaton (number : Nat) (line : List Char) (r : Reading)
    (accepted : List String) :
    (accepted.foldl (makeAccepting number line) r).automaton =
      r.automaton.editAll ((accepted.filterMap r.names.resolve).map Edit.addAccepting) := by
  induction accepted generalizing r with
  | nil => rfl
  | cons name accepted ih =>
    have hnames : (makeAccepting number line r name).names = r.names :=
      foldl_makeAccepting_names number line r [name]
    rw [List.foldl_cons, ih, hnames]
    cases h : r.names.resolve name with
    | none =>
      rw [List.filterMap_cons_none h, makeAccepting, h]
      rfl
    | some id =>
      rw [List.filterMap_cons_some h, makeAccepting, h]
      rfl

/-- **A directive changes the automaton by its edits.** -/
theorem automaton_apply (r : Reading) (number : Nat) (line : List Char) (directive : Directive) :
    (r.apply number line directive).automaton = r.automaton.editAll (r.names.edits directive) := by
  cases directive with
  | states declared => exact foldl_declare_automaton r declared
  | alphabet symbols =>
    show symbols.foldl Automaton.addSymbol r.automaton = (symbols.map Edit.addSymbol).foldl _ _
    rw [List.foldl_map]
    rfl
  | start name =>
    show (r.chooseStart number line name).automaton =
      r.automaton.editAll ((r.names.resolve name).toList.map Edit.setStart)
    unfold chooseStart
    cases r.names.resolve name <;> rfl
  | accepting accepted => exact foldl_makeAccepting_automaton number line r accepted
  | transition source symbol target =>
    show (r.writeTransition number line source symbol target).automaton =
      r.automaton.editAll (r.names.edits (.transition source symbol target))
    unfold writeTransition
    cases h : r.names.resolveTransition source symbol target with
    | ok t => simp only [Names.edits, h]; rfl
    | error cause => simp only [Names.edits, h]; rfl
  | malformedTransition => rfl
  | unrecognized => rfl

theorem foldl_makeAccepting_warnings (number : Nat) (line : List Char) (r : Reading)
    (accepted : List String) :
    (accepted.foldl (makeAccepting number line) r).warnings =
      r.warnings ++ (r.names.causes (.accepting accepted)).map
        fun cause => ⟨number, String.ofList line, cause⟩ := by
  induction accepted generalizing r with
  | nil => exact (List.append_nil _).symm
  | cons name accepted ih =>
    have hnames : (makeAccepting number line r name).names = r.names :=
      foldl_makeAccepting_names number line r [name]
    rw [List.foldl_cons, ih, hnames]
    simp only [Names.causes]
    cases h : r.names.resolve name with
    | none =>
      rw [List.filter_cons_of_pos (by rw [h]; rfl), makeAccepting, h]
      simp [warn]
    | some id =>
      rw [List.filter_cons_of_neg (by rw [h]; simp), makeAccepting, h]

/-- **A directive adds a warning for each of its causes.** -/
theorem warnings_apply (r : Reading) (number : Nat) (line : List Char) (directive : Directive) :
    (r.apply number line directive).warnings =
      r.warnings ++ (r.names.causes directive).map
        fun cause => ⟨number, String.ofList line, cause⟩ := by
  cases directive with
  | states declared =>
    refine Eq.trans ?_ (List.append_nil _).symm
    show (declared.foldl declare r).warnings = r.warnings
    induction declared generalizing r with
    | nil => rfl
    | cons name declared ih => exact ih (r.declare name)
  | alphabet symbols => exact (List.append_nil _).symm
  | start name =>
    show (r.chooseStart number line name).warnings = _
    unfold chooseStart
    cases h : r.names.resolve name with
    | none => simp only [Names.causes, h]; rfl
    | some id => simp only [Names.causes, h]; exact (List.append_nil _).symm
  | accepting accepted => exact foldl_makeAccepting_warnings number line r accepted
  | transition source symbol target =>
    show (r.writeTransition number line source symbol target).warnings = _
    unfold writeTransition
    cases h : r.names.resolveTransition source symbol target with
    | ok t => simp only [Names.causes, h, List.map_nil, List.append_nil]
    | error cause => simp only [Names.causes, h]; rfl
  | malformedTransition => rfl
  | unrecognized => rfl

/-- Only declarations change the names. -/
theorem names_apply (r : Reading) (number : Nat) (line : List Char) (directive : Directive) :
    (r.apply number line directive).names =
      match directive with
      | .states declared => (declared.foldl declare r).names
      | _ => r.names := by
  cases directive with
  | states declared => rfl
  | alphabet symbols => rfl
  | start name =>
    show (r.chooseStart number line name).names = _
    unfold chooseStart
    split <;> rfl
  | accepting accepted => exact foldl_makeAccepting_names number line r accepted
  | transition source symbol target =>
    show (r.writeTransition number line source symbol target).names = _
    unfold writeTransition
    split <;> rfl
  | malformedTransition => rfl
  | unrecognized => rfl

/-- The names after a directive do not depend on the warnings. -/
theorem names_apply_congr {r r' : Reading} (hautomaton : r.automaton = r'.automaton)
    (hnames : r.names = r'.names) (number : Nat) (line line' : List Char)
    (directive : Directive) :
    (r.apply number line directive).names = (r'.apply number line' directive).names := by
  rw [names_apply, names_apply]
  split
  · next declared =>
    induction declared generalizing r r' with
    | nil => exact hnames
    | cons name declared ih =>
      rw [List.foldl_cons, List.foldl_cons]
      refine ih ?_ ?_
      · rw [declare, declare, hautomaton]
      · rw [declare, declare, hautomaton, hnames]
  · exact hnames

/-! ### The names follow the automaton -/

/-- Every name is resolved to the state that it denotes among the states declared so far. -/
def NamesAgree (r : Reading) : Prop :=
  ∀ name, r.names.resolve name = denoted? r.declared name

theorem NamesAgree.declare {r : Reading} (h : r.NamesAgree) (new : String) :
    (r.declare new).NamesAgree := by
  intro name
  have hdeclared : (r.declare new).declared = r.declared ++ [new] := by
    show (r.automaton.states ++ [({ name := new } : State)]).map State.name = _
    rw [List.map_append]
    rfl
  have hlen : r.declared.length = r.automaton.stateCount := List.length_map ..
  rw [hdeclared, denoted?_append_singleton, ← h name, hlen]
  exact r.names.resolve_declare new name r.automaton.stateCount

/-- Only a line that declares states has edits that register states. -/
theorem addState_not_mem_edits {names : Names} {directive : Directive}
    (h : ∀ declared, directive ≠ .states declared) (s : State) :
    Edit.addState s ∉ names.edits directive := by
  cases directive with
  | states declared => exact absurd rfl (h declared)
  | alphabet symbols => simp [Names.edits]
  | start name => simp [Names.edits]
  | accepting accepted => simp [Names.edits]
  | transition source symbol target =>
    simp only [Names.edits]
    split <;> simp [Transition.edit]
  | malformedTransition => simp [Names.edits]
  | unrecognized => simp [Names.edits]

theorem declared_apply (r : Reading) (number : Nat) (line : List Char) (directive : Directive) :
    (r.apply number line directive).declared =
      match directive with
      | .states declared => r.declared ++ declared
      | _ => r.declared := by
  unfold declared
  rw [automaton_apply]
  split
  · next names =>
    exact Automaton.map_name_editAll_declaringEdits r.automaton names
  · next h => exact Automaton.map_name_editAll (addState_not_mem_edits h)

theorem NamesAgree.apply {r : Reading} (h : r.NamesAgree) (number : Nat) (line : List Char)
    (directive : Directive) : (r.apply number line directive).NamesAgree := by
  by_cases hd : ∃ declared, directive = .states declared
  · obtain ⟨names, rfl⟩ := hd
    show (names.foldl Reading.declare r).NamesAgree
    exact List.foldlRecOn names Reading.declare h fun r' hr' new _ => hr'.declare new
  · have hno : ∀ declared, directive ≠ .states declared := fun declared hd' => hd ⟨declared, hd'⟩
    intro name
    rw [names_apply, declared_apply]
    split
    · exact absurd rfl (hno _)
    · exact h name

/-! ### One line -/

/-- A line either has no effect, because it is blank, or is applied. -/
theorem readLine_eq (r : Reading) (line : List Char) (number : Nat) :
    r.readLine (line, number) =
      if trim line = [] then r else r.apply number (trim line) (.ofLine (trim line)) := by
  unfold readLine
  simp only [List.isEmpty_iff]

theorem automaton_readLine (r : Reading) (line : List Char) (number : Nat) :
    (r.readLine (line, number)).automaton = r.automaton.editAll (r.names.editsOn line) := by
  rw [readLine_eq]
  split
  · next hblank =>
    rw [Names.editsOn, hblank]
    rfl
  · rw [automaton_apply, Names.editsOn]

theorem warnings_readLine (r : Reading) (line : List Char) (number : Nat) :
    (r.readLine (line, number)).warnings =
      r.warnings ++ (r.names.causesOn line).map
        fun cause => ⟨number, String.ofList (trim line), cause⟩ := by
  rw [readLine_eq, Names.causesOn]
  split
  · exact (List.append_nil _).symm
  · rw [warnings_apply]

/-- A line without the label of states does not change the names. -/
theorem names_readLine_of_not_states (r : Reading) {line : List Char} (number : Nat)
    (h : ∀ declared, Directive.ofLine (trim line) ≠ .states declared) :
    (r.readLine (line, number)).names = r.names := by
  rw [readLine_eq]
  split
  · rfl
  · rw [names_apply]
    split
    · next hline => exact absurd hline (h _)
    · rfl

theorem names_readLine_congr {r r' : Reading} (hautomaton : r.automaton = r'.automaton)
    (hnames : r.names = r'.names) (line : List Char) (number : Nat) :
    (r.readLine (line, number)).names = (r'.readLine (line, number)).names := by
  rw [readLine_eq, readLine_eq]
  split
  · exact hnames
  · exact names_apply_congr hautomaton hnames _ _ _ _

theorem NamesAgree.readLine {r : Reading} (h : r.NamesAgree) (line : List Char) (number : Nat) :
    (r.readLine (line, number)).NamesAgree := by
  rw [readLine_eq]
  split
  · exact h
  · exact h.apply _ _ _

/-! ### All lines of a text -/

/-- Lines only add warnings, each of which has the number and the text of its line and a cause for
which this line was skipped. -/
theorem exists_warnings_foldl_readLine (r : Reading) (lines : List (List Char × Nat)) :
    ∃ added, (lines.foldl readLine r).warnings = r.warnings ++ added ∧
      ∀ w ∈ added, ∃ line names, (line, w.line) ∈ lines ∧ w.text = String.ofList (trim line) ∧
        w.cause ∈ Names.causesOn names line := by
  induction lines generalizing r with
  | nil => exact ⟨[], (List.append_nil _).symm, by simp⟩
  | cons entry lines ih =>
    obtain ⟨line, number⟩ := entry
    obtain ⟨later, hlater, hmem⟩ := ih (r.readLine (line, number))
    rw [warnings_readLine, List.append_assoc] at hlater
    refine ⟨_, hlater, fun w hw => ?_⟩
    rcases List.mem_append.mp hw with hw | hw
    · obtain ⟨cause, hcause, rfl⟩ := List.mem_map.mp hw
      exact ⟨line, r.names, List.mem_cons_self, rfl, hcause⟩
    · obtain ⟨line', names, hline', htext, hcause⟩ := hmem w hw
      exact ⟨line', names, List.mem_cons_of_mem _ hline', htext, hcause⟩

/-- What holds before the first line and is kept by every directive holds after all lines. -/
theorem foldl_readLine_induction {P : Reading → Prop} {r : Reading}
    (lines : List (List Char × Nat)) (h : P r)
    (step : ∀ r number line directive, P r → P (r.apply number line directive)) :
    P (lines.foldl readLine r) := by
  refine List.foldlRecOn lines readLine h fun r' hr' entry _ => ?_
  unfold readLine
  dsimp only
  split
  · exact hr'
  · exact step _ _ _ _ hr'

/-- **Every name is resolved to the last state declared under it.** -/
theorem namesAgree_foldl_readLine (lines : List (List Char × Nat)) :
    (lines.foldl readLine .empty).NamesAgree :=
  foldl_readLine_induction _ (fun _ => rfl) fun _ number line directive h =>
    h.apply number line directive

/-- The automaton of a description is built by edits. -/
theorem exists_edits_foldl_readLine (lines : List (List Char × Nat)) :
    ∃ edits, Automaton.empty.editAll edits = (lines.foldl readLine .empty).automaton := by
  refine foldl_readLine_induction
    (P := fun r => ∃ edits, Automaton.empty.editAll edits = r.automaton) _ ⟨[], rfl⟩ ?_
  rintro r number line directive ⟨edits, hedits⟩
  refine ⟨edits ++ r.names.edits directive, ?_⟩
  rw [Automaton.editAll_append, hedits, automaton_apply]

theorem wellFormed_foldl_readLine (lines : List (List Char × Nat)) :
    (lines.foldl readLine .empty).automaton.WellFormed := by
  obtain ⟨edits, hedits⟩ := exists_edits_foldl_readLine lines
  rw [← hedits]
  exact Automaton.wellFormed_empty.editAll edits

end Reading

end AutomatonKit.Description
