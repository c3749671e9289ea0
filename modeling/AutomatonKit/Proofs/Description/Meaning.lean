import Mathlib
import AutomatonKit.Proofs.Automaton.Building
import AutomatonKit.Proofs.Description.Lines
import AutomatonKit.Proofs.Description.Reading

/-!
# What a description means

The reader goes through a description once and changes an automaton, a table of names and a list of
warnings as it goes.  Here the meaning of a description is given line by line instead.  An `Entry`
is a line together with the states that were declared above it, and this much decides what the line
contributes: which states it declares (`Entry.declares`), which symbols it lists, which start state
it chooses, which states it makes accepting, which edge it applies (`Entry.edge?_eq_some_iff`), and
what is skipped of it (`Entry.causes`).  `listing` puts the contributions of all lines together.

The meaning owes nothing to the reader's own helpers: a text is cut by `List.splitOn`, a label is
taken off by `List.dropPrefix?`, and a name denotes a state by its letters in lower case
(`isNamed`).  That the reader cuts a text in the same way is proved for one helper after the other
(`entries_eq`, `declaresOn_eq`, `splitTransition_eq_parts?`), before the lines are put together.

`describes_read`: what is read from a text is the automaton that its listing describes, and the
warnings are those of its lines.
-/

namespace AutomatonKit.Description

open Text

/-! ### Lines and what stands above them -/

/-- What stands on a line after a label, if the line begins with it. -/
def after? (label : String) (line : List Char) : Option (List Char) :=
  line.dropPrefix? label.toList

/-- The trimmed pieces between the commas of a list, without those of which nothing is left. -/
def pieces (list : List Char) : List (List Char) :=
  ((list.splitOn ',').map trim).filter (· ≠ [])

/-- The states that a trimmed line declares. -/
def declaresOn (line : List Char) : List String :=
  ((after? "States:" line).map fun list => (pieces list).map String.ofList).getD []

/-- A line of a description that is not blank. -/
structure Entry where
  /-- The number of the line, counted from 1. -/
  number : Nat
  line : List Char
  /-- The names of the states that are declared on earlier lines. -/
  declared : List String

def filledLines (lines : List (List Char × Nat)) : List (List Char × Nat) :=
  (lines.map fun (line, number) => (trim line, number)).filter fun (line, _) => line ≠ []

/-- The entries for numbered lines. -/
def entriesOf (lines : List (List Char × Nat)) : List Entry :=
  (filledLines lines).zipIdx.map fun ((line, number), i) =>
    ⟨number, line, ((filledLines lines).take i).flatMap fun earlier => declaresOn earlier.1⟩

/-- The entries of a text, which is cut at its line feeds. -/
def entries (text : String) : List Entry :=
  entriesOf ((text.toList.splitOn '\n').zipIdx 1)

/-! ### The form of a transition -/

/-- The positions of the arrows in a line. -/
def arrows (line : List Char) : List Nat :=
  (List.range line.length).filter fun i => ['-', '>'].isPrefixOf (line.drop i)

/-- The trimmed source, symbol and target of a line with exactly one arrow and exactly one comma
before it. -/
def parts? (line : List Char) : Option (List Char × List Char × List Char) :=
  match arrows line with
  | [i] =>
    match (line.take i).splitOn ',' with
    | [source, symbol] => some (trim source, trim symbol, trim (line.drop (i + 2)))
    | _ => none
  | _ => none

/-! ### What a line contributes -/

namespace Entry

/-- The state that a name denotes on this line. -/
def denoted? (e : Entry) (name : List Char) : Option StateId :=
  Description.denoted? e.declared (String.ofList name)

def declares (e : Entry) : List String :=
  declaresOn e.line

def symbols (e : Entry) : List Char :=
  ((after? "Alphabet:" e.line).map fun list => (pieces list).filterMap List.head?).getD []

def start? (e : Entry) : Option StateId :=
  (after? "Start state:" e.line).bind fun name => e.denoted? (trim name)

def accepts (e : Entry) : List StateId :=
  ((after? "Accept states:" e.line).map fun list => (pieces list).filterMap e.denoted?).getD []

/-- The edge of a line without a label, or why there is none. -/
def edge (e : Entry) : Except Cause Transition :=
  if ¬ ['-', '>'] <:+: e.line then .error .unrecognized
  else
    match parts? e.line with
    | none => .error .malformedTransition
    | some (source, symbol, target) =>
      match e.denoted? source, e.denoted? target, symbol with
      | none, _, _ => .error (.unknownSource (String.ofList source))
      | some _, none, _ => .error (.unknownTarget (String.ofList target))
      | some _, some _, [] => .error .emptySymbol
      | some p, some q, c :: _ => .ok ⟨p, c, q⟩

/-- Whether the line begins with one of the four labels. -/
def IsLabelled (e : Entry) : Prop :=
  ∃ label ∈ ["States:", "Alphabet:", "Start state:", "Accept states:"], label.toList <+: e.line

instance (e : Entry) : Decidable e.IsLabelled :=
  inferInstanceAs (Decidable (∃ label ∈ _, _))

def edge? (e : Entry) : Option Transition :=
  if e.IsLabelled then none else e.edge.toOption

/-- Everything that the line contributes. -/
def listing (e : Entry) : Listing where
  names := e.declares
  symbols := e.symbols
  starts := e.start?.toList
  accepted := e.accepts
  edges := e.edge?.toList

/-- Everything that is skipped. -/
def causes (e : Entry) : List Cause :=
  if e.IsLabelled then
    ((after? "Start state:" e.line).map fun name =>
      if (e.denoted? (trim name)).isNone then [.unknownStart (String.ofList (trim name))]
      else []).getD [] ++
    ((after? "Accept states:" e.line).map fun list =>
      ((pieces list).filter fun name => (e.denoted? name).isNone).map fun name =>
        .unknownAccepting (String.ofList name)).getD []
  else
    match e.edge with
    | .ok _ => []
    | .error cause => [cause]

def warnings (e : Entry) : List Warning :=
  e.causes.map fun cause => ⟨e.number, String.ofList e.line, cause⟩

end Entry

/-- What the lines of a description list. -/
def listing (es : List Entry) : Listing where
  names := es.flatMap Entry.declares
  symbols := es.flatMap fun e => e.symbols ++ e.edge?.toList.map Transition.symbol
  starts := es.filterMap Entry.start?
  accepted := es.flatMap Entry.accepts
  edges := es.filterMap Entry.edge?

/-! ### Lines, labels and lists, as the reader finds them -/

/-- The reader takes a label off exactly where a line begins with it. -/
theorem after?_eq_afterLabel (label : String) : after? label = afterLabel label.toList := by
  funext line
  cases hafter : after? label line with
  | some rest =>
    obtain ⟨before, hline, hlabel⟩ := List.dropPrefix?_eq_some_iff.mp hafter
    rw [eq_comm, afterLabel_eq_some_iff, hline, eq_of_beq hlabel]
  | none =>
    rw [eq_comm, afterLabel_eq_none_iff]
    rintro ⟨rest, rfl⟩
    rw [after?, List.dropPrefix?_append_of_beq rest (beq_self_eq_true _)] at hafter
    exact nomatch hafter

/-- The reader keeps the same pieces of a list. -/
theorem pieces_eq_tokens : pieces = tokens := by
  funext list
  rw [tokens, pieces, splitOn_eq]
  refine List.filter_congr fun piece _ => ?_
  cases piece <;> rfl

/-- The reader cuts a text into the same lines and numbers them alike. -/
theorem entries_eq (text : String) : entries text = entriesOf (numberedLines text.toList) := by
  rw [numberedLines, splitOn_eq, entries]

theorem declaresOn_eq (line : List Char) :
    declaresOn line = ((afterLabel statesLabel line).map names).getD [] := by
  -- the labels stay folded, since a rewrite that has to compare them would spell them out
  unfold declaresOn
  rw [after?_eq_afterLabel, pieces_eq_tokens]
  rfl

namespace Entry

variable (e : Entry)

theorem isLabelled_iff : e.IsLabelled ↔ ∃ label ∈ labels, label <+: e.line := by
  have hlabels : labels =
      ["States:", "Alphabet:", "Start state:", "Accept states:"].map String.toList := rfl
  simp only [IsLabelled, hlabels, List.mem_map, exists_exists_and_eq_and]

theorem symbols_eq :
    e.symbols = ((afterLabel alphabetLabel e.line).map Description.symbols).getD [] := by
  unfold symbols
  rw [after?_eq_afterLabel, pieces_eq_tokens]
  rfl

theorem start?_eq :
    e.start? = (afterLabel startLabel e.line).bind fun name => e.denoted? (trim name) := by
  unfold start?
  rw [after?_eq_afterLabel]
  rfl

theorem accepts_eq :
    e.accepts = ((afterLabel acceptingLabel e.line).map fun list =>
      (tokens list).filterMap e.denoted?).getD [] := by
  unfold accepts
  rw [after?_eq_afterLabel, pieces_eq_tokens]
  rfl

theorem causes_eq :
    e.causes =
      if e.IsLabelled then
        ((afterLabel startLabel e.line).map fun name =>
          if (e.denoted? (trim name)).isNone then [.unknownStart (String.ofList (trim name))]
          else []).getD [] ++
        ((afterLabel acceptingLabel e.line).map fun list =>
          ((tokens list).filter fun name => (e.denoted? name).isNone).map fun name =>
            .unknownAccepting (String.ofList name)).getD []
      else
        match e.edge with
        | .ok _ => []
        | .error cause => [cause] := by
  unfold causes
  rw [after?_eq_afterLabel, after?_eq_afterLabel, pieces_eq_tokens]
  rfl

end Entry

/-! ### What a line declares -/

theorem declaresOn_of_not_states {line : List Char} (h : ¬ statesLabel <+: line) :
    declaresOn line = [] := by
  rw [declaresOn_eq, afterLabel_eq_none_iff.mpr h]
  rfl

/-- **A line declares the states of its list**, in this order. -/
theorem Reading.declared_readLine (r : Reading) (line : List Char) (number : Nat) :
    (r.readLine (line, number)).declared = r.declared ++ declaresOn (trim line) := by
  by_cases hstates : statesLabel <+: trim line
  · obtain ⟨list, hlist⟩ := hstates
    have hne : trim line ≠ [] := fun hnil =>
      label_ne_nil statesLabel (by decide) (List.append_eq_nil_iff.mp (hlist.trans hnil)).1
    rw [readLine_eq, if_neg hne, ← hlist, declared_apply, (ofLine_label list).1, declaresOn_eq,
      afterLabel_append]
    rfl
  · rw [declaresOn_of_not_states hstates, List.append_nil, readLine_eq]
    split
    · rfl
    · rw [declared_apply]
      split
      · next hline => exact absurd hline (ofLine_ne_states hstates _)
      · rfl

/-! ### The transition form, as the reader finds it -/

theorem arrows_cons (c : Char) (s : List Char) :
    arrows (c :: s) =
      (if c = '-' ∧ s.head? = some '>' then [0] else []) ++ (arrows s).map (· + 1) := by
  have hhead : ['-', '>'].isPrefixOf (c :: s) = true ↔ (c = '-' ∧ s.head? = some '>') := by
    rw [List.isPrefixOf_iff_prefix, arrow_prefix_cons_iff]
  unfold arrows
  rw [List.length_cons, List.range_succ_eq_map, List.filter_cons, List.filter_map, List.drop_zero,
    if_congr hhead rfl rfl]
  split <;> simp [Function.comp_def]

theorem arrows_append (a b : List Char) :
    arrows (a ++ '-' :: '>' :: b) =
      arrows a ++ a.length :: (arrows b).map (a.length + 2 + ·) := by
  induction a with
  | nil =>
    -- no arrow begins with the second character of this one
    have hnil : arrows [] = [] := rfl
    rw [List.nil_append, arrows_cons, arrows_cons, hnil]
    simp [Nat.add_comm]
  | cons x a ih =>
    -- an arrow that begins at `x` ends inside `a`
    have hhead : (x = '-' ∧ (a ++ '-' :: '>' :: b).head? = some '>') ↔
        (x = '-' ∧ a.head? = some '>') := by
      cases a <;> simp
    rw [List.cons_append, arrows_cons, arrows_cons, ih, if_congr hhead rfl rfl, List.map_append,
      List.append_assoc]
    simp [Function.comp_def, Nat.add_right_comm]

theorem arrows_eq_nil_iff {s : List Char} : arrows s = [] ↔ hasArrow s = false := by
  induction s with
  | nil => simp [arrows, hasArrow, cutArrow]
  | cons c s ih =>
    rw [arrows_cons, hasArrow_cons, List.append_eq_nil_iff, List.map_eq_nil_iff, ih,
      Bool.or_eq_false_iff, ← Bool.decide_and, decide_eq_false_iff_not]
    refine and_congr_left fun _ => ?_
    split <;> simp_all

theorem bind_cutAt_eq (left target : List Char) :
    ((cutAt ',' left).bind fun (source, symbol) =>
      if symbol.contains ',' then none else some (trim source, trim symbol, trim target)) =
      match left.splitOn ',' with
      | [source, symbol] => some (trim source, trim symbol, trim target)
      | _ => none := by
  cases hcut : cutAt ',' left with
  | none =>
    rw [List.splitOn_eq_singleton (cutAt_eq_none_iff.mp hcut)]
    rfl
  | some pair =>
    obtain ⟨source, symbol⟩ := pair
    obtain ⟨rfl, hsource⟩ := cutAt_eq_some_iff.mp hcut
    rw [List.splitOn_append_cons_self_of_not_mem hsource, Option.bind_some]
    dsimp only
    by_cases hsymbol : ',' ∈ symbol
    · -- a second comma makes a third piece
      obtain ⟨x, y, hxy, hx⟩ := List.eq_append_cons_of_mem hsymbol
      rw [if_pos (by simpa using hsymbol), hxy, List.splitOn_append_cons_self_of_not_mem hx]
      have hne := List.splitOn_ne_nil ',' y
      cases h : y.splitOn ',' with
      | nil => exact absurd h hne
      | cons piece pieces => rfl
    · rw [if_neg (by simpa using hsymbol), List.splitOn_eq_singleton hsymbol]

/-- **The reader finds the parts of a transition** where there is exactly one arrow and exactly one
comma before it. -/
theorem splitTransition_eq_parts? (line : List Char) : splitTransition line = parts? line := by
  unfold splitTransition parts?
  cases hcut : cutArrow line with
  | none =>
    have harrows : arrows line = [] := by
      rw [arrows_eq_nil_iff, hasArrow, hcut]
      rfl
    rw [harrows]
    rfl
  | some pair =>
    obtain ⟨left, target⟩ := pair
    obtain ⟨rfl, hleft⟩ := cutArrow_eq_some_iff.mp hcut
    -- the first arrow stands before `target`, so further arrows are those of `target`
    rw [arrows_append, arrows_eq_nil_iff.mpr hleft, List.nil_append, Option.bind_eq_bind,
      Option.bind_some]
    dsimp only
    cases harrow : hasArrow target with
    | true =>
      have hne : arrows target ≠ [] := by
        rw [Ne, arrows_eq_nil_iff, harrow]
        decide
      cases htarget : arrows target with
      | nil => exact absurd htarget hne
      | cons i is => rfl
    | false =>
      rw [arrows_eq_nil_iff.mpr harrow, List.map_nil]
      have htake : (left ++ '-' :: '>' :: target).take left.length = left := List.take_left
      have hdrop : (left ++ '-' :: '>' :: target).drop (left.length + 2) = target := by
        rw [List.drop_append]
        simp
      simp only [htake, hdrop]
      exact bind_cutAt_eq left target

/-! ### The directive of a line -/

namespace Entry

variable {e : Entry} {names : Names} {label rest : List Char}

theorem listing_of_label (hlabel : label ∈ labels) (h : e.line = label ++ rest) :
    e.listing =
      { names := if statesLabel = label then Description.names rest else []
        symbols := if alphabetLabel = label then Description.symbols rest else []
        starts := if startLabel = label then (e.denoted? (trim rest)).toList else []
        accepted := if acceptingLabel = label then (tokens rest).filterMap e.denoted? else []
        edges := [] } := by
  have hafter (a : List Char) (ha : a ∈ labels) := afterLabel_label ha hlabel rest
  have hlabelled : e.IsLabelled := e.isLabelled_iff.mpr ⟨label, hlabel, h ▸ List.prefix_append _ _⟩
  rw [listing, declares, declaresOn_eq, symbols_eq, start?_eq, accepts_eq, edge?,
    if_pos hlabelled, h, hafter statesLabel (by decide), hafter alphabetLabel (by decide),
    hafter startLabel (by decide), hafter acceptingLabel (by decide)]
  congr 1 <;> split <;> rfl

theorem causes_of_label (hlabel : label ∈ labels) (h : e.line = label ++ rest) :
    e.causes =
      (if startLabel = label ∧ e.denoted? (trim rest) = none then
        [.unknownStart (String.ofList (trim rest))]
      else []) ++
      if acceptingLabel = label then
        ((tokens rest).filter fun name => (e.denoted? name).isNone).map fun name =>
          .unknownAccepting (String.ofList name)
      else [] := by
  have hafter (a : List Char) (ha : a ∈ labels) := afterLabel_label ha hlabel rest
  have hlabelled : e.IsLabelled := e.isLabelled_iff.mpr ⟨label, hlabel, h ▸ List.prefix_append _ _⟩
  rw [causes_eq, if_pos hlabelled, h, hafter startLabel (by decide),
    hafter acceptingLabel (by decide)]
  by_cases hstart : startLabel = label <;> by_cases haccepting : acceptingLabel = label <;>
    simp [hstart, haccepting]

/-- **A labelled line**: where names are resolved to the states that they denote, the reader
performs the edits that the line contributes, and skips the rest. -/
theorem edits_ofLine_of_label
    (hnames : ∀ name, names.resolve name = Description.denoted? e.declared name)
    (hlabel : label ∈ labels) (h : e.line = label ++ rest) :
    names.edits (.ofLine e.line) = e.listing.edits ∧ names.causes (.ofLine e.line) = e.causes := by
  have hlisting := listing_of_label hlabel h
  have hcauses := causes_of_label hlabel h
  obtain ⟨hstates, halphabet, hstart, haccepting⟩ := ofLine_label rest
  have hresolve : ∀ name, names.resolve (String.ofList name) = e.denoted? name :=
    fun name => hnames _
  have hlabel : label = statesLabel ∨ label = alphabetLabel ∨ label = startLabel ∨
      label = acceptingLabel := by
    simpa [labels] using hlabel
  rw [hlisting, hcauses, h]
  rcases hlabel with rfl | rfl | rfl | rfl
  · rw [hstates]
    constructor
    · show Automaton.declaringEdits _ = Listing.edits ⟨_, [], [], [], []⟩
      simp [Listing.edits]
    · rfl
  · rw [halphabet]
    constructor
    · show _ = Listing.edits ⟨[], _, [], [], []⟩
      simp [Listing.edits, Automaton.declaringEdits, Names.edits]
    · rfl
  · rw [hstart]
    constructor
    · show _ = Listing.edits ⟨[], [], (e.denoted? (trim rest)).toList, [], []⟩
      simp [Listing.edits, Automaton.declaringEdits, Names.edits, hresolve]
    · rw [Names.causes, hresolve]
      cases hdenoted : e.denoted? (trim rest) <;> rfl
  · rw [haccepting]
    constructor
    · show _ = Listing.edits ⟨[], [], [], (tokens rest).filterMap e.denoted?, []⟩
      simp [Listing.edits, Automaton.declaringEdits, Names.edits, hresolve, Description.names,
        List.filterMap_map]
    · show _ = [] ++ List.map _ _
      simp [Names.causes, Description.names, List.filter_map, Function.comp_def, hresolve]

/-- **A line without a label**, likewise. -/
theorem edits_ofLine_of_not_label
    (hnames : ∀ name, names.resolve name = Description.denoted? e.declared name)
    (h : ¬ e.IsLabelled) :
    names.edits (.ofLine e.line) = e.listing.edits ∧ names.causes (.ofLine e.line) = e.causes := by
  have hno : ∀ label ∈ labels, ¬ label <+: e.line :=
    fun label hlabel hprefix => h (e.isLabelled_iff.mpr ⟨label, hlabel, hprefix⟩)
  have hafter : ∀ label ∈ labels, afterLabel label e.line = none :=
    fun label hlabel => afterLabel_eq_none_iff.mpr (hno label hlabel)
  have hresolve : ∀ name, names.resolve (String.ofList name) = e.denoted? name :=
    fun name => hnames _
  have hlisting : e.listing = ⟨[], [], [], [], e.edge.toOption.toList⟩ := by
    rw [listing, declares, declaresOn_eq, symbols_eq, start?_eq, accepts_eq, edge?, if_neg h,
      hafter statesLabel (by decide), hafter alphabetLabel (by decide),
      hafter startLabel (by decide), hafter acceptingLabel (by decide)]
    rfl
  rw [ofLine_of_no_label hno, hlisting, causes, if_neg h, edge, Directive.ofPlainLine]
  by_cases harrow : ['-', '>'] <:+: e.line
  · rw [if_neg (not_not.mpr harrow), if_pos (hasArrow_iff.mpr harrow), splitTransition_eq_parts?]
    cases parts? e.line with
    | none => exact ⟨rfl, rfl⟩
    | some parts =>
      obtain ⟨source, symbol, target⟩ := parts
      simp only [Names.edits, Names.causes, Names.resolveTransition, hresolve]
      cases e.denoted? source with
      | none => exact ⟨rfl, rfl⟩
      | some p =>
        cases e.denoted? target with
        | none => exact ⟨rfl, rfl⟩
        | some q => cases symbol <;> exact ⟨rfl, rfl⟩
  · rw [if_pos harrow, if_neg (mt hasArrow_iff.mp harrow)]
    exact ⟨rfl, rfl⟩

/-- **A transition is applied** if it has the right form, its source and target are declared above
it, and it has a symbol. -/
theorem edge?_eq_some_iff {t : Transition} :
    e.edge? = some t ↔
      ¬ e.IsLabelled ∧ ∃ source rest target,
        parts? e.line = some (source, t.symbol :: rest, target) ∧
        e.denoted? source = some t.source ∧ e.denoted? target = some t.target := by
  have hok : ∀ x : Except Cause Transition, x.toOption = some t ↔ x = .ok t := by
    intro x
    cases x <;> simp [Except.toOption]
  rw [edge?]
  by_cases hlabelled : e.IsLabelled
  · simp [hlabelled]
  · rw [if_neg hlabelled, hok, edge]
    by_cases harrow : ['-', '>'] <:+: e.line
    · rw [if_neg (not_not.mpr harrow)]
      cases parts? e.line with
      | none => simp
      | some parts =>
        obtain ⟨source, symbol, target⟩ := parts
        simp only [Option.some.injEq, Prod.mk.injEq]
        constructor
        · intro h
          split at h
          · exact absurd h (by simp)
          · exact absurd h (by simp)
          · exact absurd h (by simp)
          · next q p c rest hp hq =>
            obtain rfl := Except.ok.inj h
            exact ⟨hlabelled, source, rest, target, ⟨rfl, rfl, rfl⟩, hp, hq⟩
        · rintro ⟨-, _, rest, _, ⟨rfl, rfl, rfl⟩, hsource, htarget⟩
          rw [hsource, htarget]
    · have hparts : parts? e.line = none := by
        rw [parts?, arrows_eq_nil_iff.mpr (hasArrow_eq_false_iff.mpr harrow)]
      simp [harrow, hparts]

/-- A line only refers to states that are declared above it. -/
theorem within_listing (e : Entry) : e.listing.Within e.declared.length := by
  have hlt : ∀ {name : List Char} {id : StateId}, e.denoted? name = some id →
      id < e.declared.length := fun h => lt_of_denoted? h
  refine ⟨fun id hid => ?_, fun id hid => ?_, fun t ht => ?_⟩
  · obtain ⟨name, -, h⟩ := Option.bind_eq_some_iff.mp (Option.mem_toList.mp hid)
    exact hlt h
  · have hid : id ∈ e.accepts := hid
    rw [accepts_eq] at hid
    cases hlist : afterLabel acceptingLabel e.line with
    | none =>
      rw [hlist] at hid
      exact absurd hid List.not_mem_nil
    | some list =>
      rw [hlist] at hid
      obtain ⟨name, -, h⟩ := List.mem_filterMap.mp hid
      exact hlt h
  · obtain ⟨-, source, rest, target, -, hsource, htarget⟩ :=
      edge?_eq_some_iff.mp (Option.mem_toList.mp ht)
    exact ⟨hlt hsource, hlt htarget⟩

end Entry

/-! ### All lines -/

theorem extend_listing (es : List Entry) (e : Entry) :
    (listing es).extend e.listing = listing (es ++ [e]) := by
  have hsingleton : ∀ {α : Type} (f : Entry → Option α), [e].filterMap f = (f e).toList := by
    intro α f
    cases h : f e <;> simp [h]
  simp only [Listing.extend, listing, Entry.listing, List.flatMap_append, List.filterMap_append,
    List.flatMap_singleton, hsingleton]

/-- **One more line** is read as it is meant. -/
theorem describes_apply {r : Reading} {es : List Entry} {e : Entry}
    (h : (listing es).Describes r.automaton) (hr : r.automaton.WellFormed) (hagree : r.NamesAgree)
    (he : e.declared = es.flatMap Entry.declares) :
    (listing (es ++ [e])).Describes (r.apply e.number e.line (.ofLine e.line)).automaton ∧
      (r.apply e.number e.line (.ofLine e.line)).warnings = r.warnings ++ e.warnings := by
  have hnames : ∀ name, r.names.resolve name = denoted? e.declared name := by
    intro name
    rw [hagree, Reading.declared, h.map_name, he]
    rfl
  have hedits : r.names.edits (.ofLine e.line) = e.listing.edits ∧
      r.names.causes (.ofLine e.line) = e.causes := by
    by_cases hlabelled : e.IsLabelled
    · obtain ⟨label, hlabel, rest, hrest⟩ := e.isLabelled_iff.mp hlabelled
      exact Entry.edits_ofLine_of_label hnames hlabel hrest.symm
    · exact Entry.edits_ofLine_of_not_label hnames hlabelled
  have hwithin : e.listing.Within ((listing es).names.length + e.listing.names.length) :=
    (he ▸ e.within_listing).mono (Nat.le_add_right _ _)
  rw [Reading.automaton_apply, Reading.warnings_apply, hedits.1, hedits.2, ← extend_listing]
  exact ⟨h.editAll_edits hr hwithin, rfl⟩

theorem entriesOf_append_singleton (lines : List (List Char × Nat)) (line : List Char)
    (number : Nat) :
    entriesOf (lines ++ [(line, number)]) = entriesOf lines ++
      if trim line = [] then []
      else [⟨number, trim line, (entriesOf lines).flatMap Entry.declares⟩] := by
  have hdeclares : (entriesOf lines).flatMap Entry.declares =
      (filledLines lines).flatMap fun earlier => declaresOn earlier.1 := by
    conv_rhs => rw [← List.zipIdx_map_fst 0 (filledLines lines)]
    unfold entriesOf
    rw [List.flatMap_map, List.flatMap_map]
    rfl
  have hfilled : filledLines (lines ++ [(line, number)]) =
      filledLines lines ++ if trim line = [] then [] else [(trim line, number)] := by
    unfold filledLines
    rw [List.map_append, List.filter_append, List.map_singleton, List.filter_singleton]
    by_cases hline : trim line = [] <;> simp [hline]
  rw [entriesOf, hfilled]
  by_cases hline : trim line = []
  · rw [if_pos hline, if_pos hline, List.append_nil, List.append_nil]
    rfl
  · rw [if_neg hline, if_neg hline, List.zipIdx_append, List.map_append]
    congr 1
    · -- what stands above the earlier lines is the same as before
      refine List.map_congr_left fun x hx => ?_
      obtain ⟨⟨earlier, n⟩, i⟩ := x
      have hi : i < (filledLines lines).length := by simpa using (List.mem_zipIdx hx).2.1
      dsimp only
      rw [List.take_append_of_le_length hi.le]
    · simp [hdeclares]

theorem describes_foldl_readLine (lines : List (List Char × Nat)) :
    (listing (entriesOf lines)).Describes (lines.foldl Reading.readLine .empty).automaton ∧
      (lines.foldl Reading.readLine .empty).warnings =
        (entriesOf lines).flatMap Entry.warnings := by
  -- from the first line on: the names that the last line refers to are those of the lines before it
  induction lines using List.reverseRecOn with
  | nil => exact ⟨Listing.describes_empty, rfl⟩
  | append_singleton lines last ih =>
    obtain ⟨line, number⟩ := last
    obtain ⟨hautomaton, hwarnings⟩ := ih
    rw [List.foldl_append, List.foldl_cons, List.foldl_nil, entriesOf_append_singleton,
      Reading.readLine_eq]
    by_cases hline : trim line = []
    · rw [if_pos hline, if_pos hline, List.append_nil]
      exact ⟨hautomaton, hwarnings⟩
    · rw [if_neg hline, if_neg hline]
      obtain ⟨h₁, h₂⟩ := describes_apply
        (e := ⟨number, trim line, (entriesOf lines).flatMap Entry.declares⟩) hautomaton
        (Reading.wellFormed_foldl_readLine lines) (Reading.namesAgree_foldl_readLine lines) rfl
      refine ⟨h₁, h₂.trans ?_⟩
      rw [hwarnings, List.flatMap_append, List.flatMap_singleton]

/-- **A description means what its lines say.**  For every text, the automaton that is read is the
one that the listing of its lines describes, and the warnings are those of its lines in their
order. -/
theorem describes_read (text : String) :
    (listing (entries text)).Describes (read text).automaton ∧
      (read text).warnings = (entries text).flatMap Entry.warnings := by
  rw [entries_eq]
  exact describes_foldl_readLine (numberedLines text.toList)

/-- A text with a name in two spellings that is referred to in a third one, a reference before its
declaration, and an edge that a later line replaces. -/
def tideText : String :=
  "States: Low, high,, LOW\n \n Alphabet: go, halt\nStart state: loW \nStart state: Mid\n" ++
    "HIGH, go -> low\nStates: a->b, Mid\nhigh,g->mID\nlow -> mid\nAccept states: MID, sea, Low"

/-- `tideText` is read as it is meant: the third spelling denotes the second state of the name, the
early reference is skipped, and the later edge counts. -/
theorem describes_read_tide :
    (read tideText).automaton.states =
        [⟨"Low", false⟩, ⟨"high", false⟩, ⟨"LOW", true⟩, ⟨"a->b", false⟩, ⟨"Mid", true⟩] ∧
      (read tideText).automaton.alphabet.symbols = ['g', 'h'] ∧
      (read tideText).automaton.start = some 2 ∧
      (∀ p c, (read tideText).automaton.successor p c =
        if p = 1 ∧ c = 'g' then some 4 else none) ∧
      (read tideText).warnings =
        [⟨5, "Start state: Mid", .unknownStart "Mid"⟩,
         ⟨9, "low -> mid", .malformedTransition⟩,
         ⟨10, "Accept states: MID, sea, Low", .unknownAccepting "sea"⟩] := by
  obtain ⟨hdescribes, hwarnings⟩ := describes_read tideText
  -- what the lines say, without the reader
  have hmeant : (listing (entries tideText)).names = ["Low", "high", "LOW", "a->b", "Mid"] ∧
      (listing (entries tideText)).symbols = ['g', 'h', 'g', 'g'] ∧
      (listing (entries tideText)).starts = [2] ∧
      (listing (entries tideText)).accepted = [4, 2] ∧
      (listing (entries tideText)).edges = [⟨1, 'g', 2⟩, ⟨1, 'g', 4⟩] ∧
      (entries tideText).flatMap Entry.warnings =
        [⟨5, "Start state: Mid", .unknownStart "Mid"⟩,
         ⟨9, "low -> mid", .malformedTransition⟩,
         ⟨10, "Accept states: MID, sea, Low", .unknownAccepting "sea"⟩] := by decide +kernel
  obtain ⟨hnames, hsymbols, hstarts, haccepted, hedges, hmeantWarnings⟩ := hmeant
  refine ⟨?_, ?_, ?_, fun p c => ?_, hwarnings.trans hmeantWarnings⟩
  · rw [hdescribes.states_eq, hnames, haccepted]
    rfl
  · rw [hdescribes.symbols_eq, hsymbols]
    rfl
  · rw [hdescribes.start_eq, hstarts]
    rfl
  · rw [hdescribes.successor_eq, Listing.target?, hedges]
    by_cases h : p = 1 ∧ c = 'g'
    · obtain ⟨rfl, rfl⟩ := h
      rfl
    · have hno : ¬ (1 = p ∧ 'g' = c) := fun h' => h ⟨h'.1.symm, h'.2.symm⟩
      rw [if_neg h]
      simp [hno]

end AutomatonKit.Description
