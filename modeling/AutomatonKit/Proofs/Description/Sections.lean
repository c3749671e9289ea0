import Mathlib
import AutomatonKit.Proofs.Description.Lines
import AutomatonKit.Proofs.Description.Reading

/-!
# The sections of a description

A description that is written in good order consists of a line for the states, one for the symbols,
one for the start state, one for the accepting states, and a line for each transition.  Where names
and symbols are plain, each of these lines is read as the directive that it is meant to be, whether
or not the names in it are declared.

`Asks names lines edits causes` says what lines after the first one come to, where names are looked
up in `names`: they make the edits and are skipped for the causes, both in the order of the lines.
There is a lemma for each section, sections are joined by `Asks.append`, and `Asks.foldl_readLine`
says that reading the lines does what they ask for.  `foldl_readLine_statesLine` is about the line
of the states, and `readChars_sections` about a whole description that begins with it.
-/

namespace AutomatonKit.Description

open Text Reading

/-! ### Lines that declare no state -/

/-- What lines that declare no state ask for, and what is skipped of them. -/
structure Asks (names : Names) (lines : List (List Char)) (edits : List Edit)
    (causes : List Cause) : Prop where
  /-- No line is blank or has blanks at its ends. -/
  trimmed : ∀ line ∈ lines, trim line = line ∧ line ≠ []
  no_states : ∀ line ∈ lines, ∀ declared, Directive.ofLine line ≠ .states declared
  edits_eq : lines.flatMap (fun line => names.edits (.ofLine line)) = edits
  causes_eq : lines.flatMap (fun line => names.causes (.ofLine line)) = causes

variable {names : Names} {lines lines' : List (List Char)} {edits edits' : List Edit}
  {causes causes' : List Cause}

namespace Asks

theorem nil : Asks names [] [] [] :=
  ⟨by simp, by simp, rfl, rfl⟩

theorem append (h : Asks names lines edits causes) (h' : Asks names lines' edits' causes') :
    Asks names (lines ++ lines') (edits ++ edits') (causes ++ causes') where
  trimmed line hline := (List.mem_append.mp hline).elim (h.trimmed line) (h'.trimmed line)
  no_states line hline := (List.mem_append.mp hline).elim (h.no_states line) (h'.no_states line)
  edits_eq := by rw [List.flatMap_append, h.edits_eq, h'.edits_eq]
  causes_eq := by rw [List.flatMap_append, h.causes_eq, h'.causes_eq]

theorem flatMap {α : Type} {xs : List α} {f : α → List (List Char)} {g : α → List Edit}
    {k : α → List Cause} (h : ∀ x ∈ xs, Asks names (f x) (g x) (k x)) :
    Asks names (xs.flatMap f) (xs.flatMap g) (xs.flatMap k) := by
  induction xs with
  | nil => exact nil
  | cons x xs ih =>
    obtain ⟨hx, hxs⟩ := List.forall_mem_cons.mp h
    exact hx.append (ih hxs)

theorem line {line : List Char} {directive : Directive} (htrim : trim line = line ∧ line ≠ [])
    (hdirective : Directive.ofLine line = directive) (hstates : ∀ ds, directive ≠ .states ds) :
    Asks names [line] (names.edits directive) (names.causes directive) where
  trimmed := by simpa using htrim
  no_states := by simpa [hdirective] using hstates
  edits_eq := by simp [hdirective]
  causes_eq := by simp [hdirective]

/-- **Reading such lines** performs the edits and adds a warning for each cause. -/
theorem foldl_readLine {r : Reading} (h : Asks r.names lines edits causes) (number : Nat) :
    ((lines.zipIdx number).foldl readLine r).automaton = r.automaton.editAll edits ∧
      ∃ warnings, ((lines.zipIdx number).foldl readLine r).warnings = r.warnings ++ warnings ∧
        warnings.map Warning.cause = causes := by
  induction lines generalizing r edits causes number with
  | nil =>
    rw [← h.edits_eq, ← h.causes_eq]
    exact ⟨rfl, [], (List.append_nil _).symm, rfl⟩
  | cons line lines ih =>
    obtain ⟨htrim, hne⟩ := h.trimmed line List.mem_cons_self
    have hstep : r.readLine (line, number) = r.apply number line (.ofLine line) := by
      rw [readLine_eq, htrim, if_neg hne]
    -- the line declares nothing, so the others are read with the same names
    have hnames : (r.readLine (line, number)).names = r.names := by
      rw [hstep, names_apply]
      split
      · next hdirective => exact absurd hdirective (h.no_states line List.mem_cons_self _)
      · rfl
    have hrest : Asks (r.readLine (line, number)).names lines
        (lines.flatMap fun line => r.names.edits (.ofLine line))
        (lines.flatMap fun line => r.names.causes (.ofLine line)) := by
      rw [hnames]
      exact ⟨fun x hx => h.trimmed x (List.mem_cons_of_mem _ hx),
        fun x hx => h.no_states x (List.mem_cons_of_mem _ hx), rfl, rfl⟩
    obtain ⟨hautomaton, warnings, hwarnings, hcauses⟩ := ih hrest (number + 1)
    rw [List.zipIdx_cons, List.foldl_cons, hautomaton, hwarnings, hstep, automaton_apply,
      warnings_apply, ← h.edits_eq, ← h.causes_eq, List.flatMap_cons, List.flatMap_cons,
      Automaton.editAll_append, List.append_assoc]
    refine ⟨rfl, _, rfl, ?_⟩
    rw [List.map_append, hcauses, List.map_map]
    exact congrArg (· ++ _) (List.map_id _)

end Asks

/-! ### One section -/

/-- A line that lists plain items asks for its directive. -/
theorem asks_listLine {label : List Char} {items : List (List Char)} (directive : Directive)
    (hlabel : label ∈ labels) (hitems : ∀ item ∈ items, PlainItem item)
    (hdirective : items ≠ [] →
      Directive.ofLine (label ++ ' ' :: List.intercalate [',', ' '] items) = directive)
    (hstates : ∀ ds, directive ≠ .states ds)
    (hempty : items = [] → names.edits directive = [] ∧ names.causes directive = []) :
    Asks names (listLine label items) (names.edits directive) (names.causes directive) := by
  by_cases hne : items = []
  · rw [(hempty hne).1, (hempty hne).2, hne]
    exact Asks.nil
  · have hline : listLine label items = [label ++ ' ' :: List.intercalate [',', ' '] items] :=
      if_neg (by simpa using hne)
    have htrim := trim_listLine hlabel hitems
    rw [hline] at htrim ⊢
    obtain ⟨htrim, hnil, -⟩ := htrim _ (List.mem_singleton.mpr rfl)
    exact Asks.line ⟨htrim, hnil⟩ (hdirective hne) hstates

theorem plainItem_of_plainNames {ns : List String} (h : ∀ n ∈ ns, PlainName n.toList) :
    ∀ item ∈ ns.map String.toList, PlainItem item := by
  intro item hitem
  obtain ⟨n, hn, rfl⟩ := List.mem_map.mp hitem
  exact (h n hn).plainItem

theorem plainItem_of_plainSymbols {symbols : List Char} (h : ∀ c ∈ symbols, PlainSymbol c) :
    ∀ item ∈ symbols.map fun c => [c], PlainItem item := by
  intro item hitem
  obtain ⟨c, hc, rfl⟩ := List.mem_map.mp hitem
  exact (h c hc).plainItem

/-- The names of a list are read as they were written. -/
theorem names_of_plainNames {ns : List String} (h : ∀ n ∈ ns, PlainName n.toList) :
    Description.names (' ' :: List.intercalate [',', ' '] (ns.map String.toList)) = ns := by
  rw [Description.names, tokens_of_plainItems (plainItem_of_plainNames h), List.map_map]
  refine (List.map_congr_left fun n _ => ?_).trans (List.map_id ns)
  exact String.ofList_toList

theorem asks_alphabetLine (names : Names) {symbols : List Char}
    (h : ∀ c ∈ symbols, PlainSymbol c) :
    Asks names (listLine alphabetLabel (symbols.map fun c => [c])) (symbols.map Edit.addSymbol)
      [] := by
  have hitems := plainItem_of_plainSymbols h
  refine asks_listLine (.alphabet symbols) (by decide) hitems (fun _ => ?_) (by simp)
    fun hnil => ⟨?_, rfl⟩
  · rw [(ofLine_label _).2.1, Description.symbols, tokens_of_plainItems hitems, List.filterMap_map]
    exact congrArg Directive.alphabet List.filterMap_some
  · rw [List.map_eq_nil_iff.mp hnil]
    rfl

theorem asks_startLine (names : Names) {n : String} (h : PlainName n.toList) :
    Asks names (listLine startLabel [n.toList]) (names.edits (.start n))
      (names.causes (.start n)) := by
  refine asks_listLine (.start n) (by decide) (fun item hitem => ?_) (fun _ => ?_) (by simp)
    fun hnil => absurd hnil (List.cons_ne_nil _ _)
  · rw [List.mem_singleton.mp hitem]
    exact h.plainItem
  · rw [(ofLine_label _).2.2.1]
    simp only [List.intercalate_singleton, trim_cons_of_blank isBlank_space, h.trim_eq,
      String.ofList_toList]

theorem asks_acceptingLine (names : Names) {ns : List String}
    (h : ∀ n ∈ ns, PlainName n.toList) :
    Asks names (listLine acceptingLabel (ns.map String.toList)) (names.edits (.accepting ns))
      (names.causes (.accepting ns)) := by
  refine asks_listLine (.accepting ns) (by decide) (plainItem_of_plainNames h) (fun _ => ?_)
    (by simp) fun hnil => ?_
  · rw [(ofLine_label _).2.2.2, names_of_plainNames h]
  · rw [List.map_eq_nil_iff.mp hnil]
    exact ⟨rfl, rfl⟩

theorem asks_edgeLine (names : Names) {source target : String} {c : Char}
    (hsource : PlainName source.toList) (htarget : PlainName target.toList) (hc : PlainSymbol c) :
    Asks names [edgeLine source.toList c target.toList]
      (names.edits (.transition source (some c) target))
      (names.causes (.transition source (some c) target)) := by
  obtain ⟨htrim, hne, -⟩ := trim_edgeLine hsource htarget hc
  refine Asks.line ⟨htrim, hne⟩ ?_ (by simp)
  rw [ofLine_edgeLine hsource htarget hc, String.ofList_toList, String.ofList_toList]

/-! ### The line of the states -/

/-- The line of the states declares them, and afterwards names are resolved among them. -/
theorem foldl_readLine_statesLine {ns : List String} (h : ∀ n ∈ ns, PlainName n.toList)
    (number : Nat) {r : Reading}
    (hr : r =
      ((listLine statesLabel (ns.map String.toList)).zipIdx number).foldl readLine .empty) :
    r.automaton = Automaton.empty.editAll (Automaton.declaringEdits ns) ∧ r.warnings = [] ∧
      r.NamesAgree ∧ r.declared = ns := by
  have hempty : Reading.empty.NamesAgree := fun _ => rfl
  by_cases hne : ns = []
  · rw [hr, hne]
    exact ⟨rfl, rfl, hempty, rfl⟩
  · have htrim := trim_listLine (show statesLabel ∈ labels by decide) (plainItem_of_plainNames h)
    rw [listLine, if_neg (by simpa using hne)] at htrim hr
    obtain ⟨htrim, hnil, -⟩ := htrim _ (List.mem_singleton.mpr rfl)
    rw [List.zipIdx_singleton, List.foldl_cons, List.foldl_nil, readLine] at hr
    dsimp only at hr
    rw [htrim, if_neg (by simp), (ofLine_label _).1, names_of_plainNames h] at hr
    rw [hr, automaton_apply, warnings_apply, declared_apply]
    exact ⟨rfl, rfl, hempty.apply _ _ _, rfl⟩

/-- **Reading a description in good order** declares the states of its first line and does what the
other lines ask for. -/
theorem readChars_sections {ns : List String} (h : ∀ n ∈ ns, PlainName n.toList)
    (hlines : ∀ line ∈ listLine statesLabel (ns.map String.toList) ++ lines, '\n' ∉ line)
    (hasks : ∀ r : Reading, r.NamesAgree → r.declared = ns → Asks r.names lines edits causes)
    {text : List Char}
    (htext : text = (listLine statesLabel (ns.map String.toList) ++ lines).flatMap fun line =>
      line ++ ['\n']) :
    (readChars text).automaton = Automaton.empty.editAll (Automaton.declaringEdits ns ++ edits) ∧
      (readChars text).warnings.map Warning.cause = causes := by
  obtain ⟨r, hr⟩ : ∃ r, r = ((listLine statesLabel (ns.map String.toList)).zipIdx 1).foldl
    readLine .empty := ⟨_, rfl⟩
  obtain ⟨hautomaton, hwarnings, hagree, hdeclared⟩ := foldl_readLine_statesLine h 1 hr
  obtain ⟨hedits, warnings, hnew, hcauses⟩ := (hasks r hagree hdeclared).foldl_readLine
    (1 + (listLine statesLabel (ns.map String.toList)).length)
  have hread : readChars text = (lines.zipIdx (1 + (listLine statesLabel
      (ns.map String.toList)).length)).foldl readLine r := by
    rw [readChars, numberedLines, htext, splitOn_flatMap_lines hlines, List.zipIdx_append,
      List.foldl_append, List.zipIdx_append, List.foldl_append, ← hr]
    -- the piece after the last line feed is blank and has no effect
    rfl
  rw [hread, hedits, hnew, hautomaton, hwarnings, Automaton.editAll_append, List.nil_append]
  exact ⟨rfl, hcauses⟩

end AutomatonKit.Description
