import Mathlib
import AutomatonKit.Proofs.Blueprint.Faults
import AutomatonKit.Proofs.Description.Sections

/-!
# Blueprints and their descriptions

A blueprint can be built, or it can be written down as a description and read.  The builder looks
names up exactly and gives up at the first fault; the reader looks them up in any spelling and skips
what it cannot apply.  For a plain blueprint (`Blueprint.IsPlain`) both do the same as far as the
builder gets: reading its description performs the edits of the blueprint, and what is skipped are
all its faults, in order (`read_describe`).  `build_agrees_with_read` compares the two outcomes.
-/

namespace AutomatonKit

open Description Text Reading

namespace Blueprint

/-- The names that a blueprint declares or refers to. -/
def mentioned (b : Blueprint) : List String :=
  b.states ++ b.start.toList ++ b.accepting ++ b.transitions.flatMap fun t => [t.source, t.target]

/-- What a blueprint needs so that its description says the same. -/
structure IsPlain (b : Blueprint) : Prop where
  distinct : b.states.Nodup
  name : ∀ n ∈ b.mentioned, PlainName n.toList
  /-- Different names differ by more than case. -/
  key : ∀ m ∈ b.mentioned, ∀ n ∈ b.mentioned, lowercase m.toList = lowercase n.toList → m = n
  symbol : ∀ c ∈ b.symbols ++ b.transitions.map NamedTransition.symbol, PlainSymbol c

/-- The lines that describe a blueprint.  A section that would list nothing is left out. -/
def describeLines (b : Blueprint) : List (List Char) :=
  listLine statesLabel (b.states.map String.toList) ++
    listLine alphabetLabel (b.symbols.map fun c => [c]) ++
    listLine startLabel (b.start.toList.map String.toList) ++
    listLine acceptingLabel (b.accepting.map String.toList) ++
    b.transitions.map fun t => edgeLine t.source.toList t.symbol t.target.toList

/-- The description of a blueprint. -/
def describe (b : Blueprint) : String :=
  String.ofList (b.describeLines.flatMap fun line => line ++ ['\n'])

/-- The cause for which a reader skips what a builder refuses.  A reader does not mind a state that
is declared twice. -/
def Fault.cause? : Fault → Option Cause
  | duplicateState _ => none
  | unknownStart name => some (.unknownStart name)
  | unknownAccepting name => some (.unknownAccepting name)
  | unknownSource name => some (.unknownSource name)
  | unknownTarget name => some (.unknownTarget name)

/-! ### What is mentioned -/

variable {b : Blueprint} {n : String} {t : NamedTransition}

theorem mem_mentioned_iff :
    n ∈ b.mentioned ↔ n ∈ b.states ∨ b.start = some n ∨ n ∈ b.accepting ∨
      ∃ t ∈ b.transitions, n = t.source ∨ n = t.target := by
  simp [mentioned, List.mem_append]

theorem source_mem_mentioned (ht : t ∈ b.transitions) : t.source ∈ b.mentioned :=
  mem_mentioned_iff.mpr (Or.inr (Or.inr (Or.inr ⟨t, ht, Or.inl rfl⟩)))

theorem target_mem_mentioned (ht : t ∈ b.transitions) : t.target ∈ b.mentioned :=
  mem_mentioned_iff.mpr (Or.inr (Or.inr (Or.inr ⟨t, ht, Or.inr rfl⟩)))

/-- Every fault of a reference has a cause. -/
theorem exists_cause_of_mem_faults {fault : Fault} (h : fault ∈ b.faults) :
    ∃ cause, fault.cause? = some cause := by
  simp only [faults, List.mem_append, List.mem_filterMap, edgeFault?, Option.or_eq_some_iff,
    undeclared?_eq_some_iff] at h
  rcases h with (⟨name, -, -, rfl⟩ | ⟨name, -, -, rfl⟩) | ⟨t, -, ⟨-, rfl⟩ | ⟨-, -, rfl⟩⟩
  · exact ⟨.unknownStart name, rfl⟩
  · exact ⟨.unknownAccepting name, rfl⟩
  · exact ⟨.unknownSource t.source, rfl⟩
  · exact ⟨.unknownTarget t.target, rfl⟩

/-! ### References -/

namespace IsPlain

/-- After the line of the states, a reader finds under every name what a builder finds. -/
theorem resolve_eq (h : b.IsPlain) {r : Reading} (hr : r.NamesAgree)
    (hdeclared : r.declared = b.states) (hn : n ∈ b.mentioned) :
    r.names.resolve n = b.idOf? n := by
  have hstates : ∀ m ∈ b.states, m ∈ b.mentioned := fun m hm => mem_mentioned_iff.mpr (Or.inl hm)
  have hnodup : (b.states.map fun m => lowercase m.toList).Nodup :=
    h.distinct.map_on fun x hx y hy => h.key x (hstates x hx) y (hstates y hy)
  rw [hr, hdeclared, idOf?]
  exact denoted?_eq_idxOf? hnodup fun m hm => h.key m (hstates m hm) n hn

end IsPlain

variable {names : Names}

theorem causes_start (hn : names.resolve n = b.idOf? n) :
    names.causes (.start n) = (b.undeclared? .unknownStart n).toList.filterMap Fault.cause? := by
  rw [Names.causes, hn, undeclared?]
  split <;> rfl

theorem causes_accepting {ns : List String} (h : ∀ n ∈ ns, names.resolve n = b.idOf? n) :
    names.causes (.accepting ns) =
      (ns.filterMap (b.undeclared? .unknownAccepting)).filterMap Fault.cause? := by
  induction ns with
  | nil => rfl
  | cons n ns ih =>
    obtain ⟨hn, hns⟩ := List.forall_mem_cons.mp h
    have ih := ih hns
    simp only [Names.causes] at ih ⊢
    cases hid : b.idOf? n with
    | none =>
      have hundeclared : b.undeclared? .unknownAccepting n = some (.unknownAccepting n) := by
        rw [undeclared?, hid]
        rfl
      rw [List.filter_cons_of_pos (by rw [hn, hid]; rfl), List.map_cons, ih,
        List.filterMap_cons_some hundeclared]
      rfl
    | some id =>
      have hundeclared : b.undeclared? .unknownAccepting n = none := by
        rw [undeclared?, hid]
        rfl
      rw [List.filter_cons_of_neg (by rw [hn, hid]; simp), ih,
        List.filterMap_cons_none hundeclared]

/-- What a reader makes of a transition is what a builder makes of it: the edge, or the fault. -/
theorem edits_causes_transition (hsource : names.resolve t.source = b.idOf? t.source)
    (htarget : names.resolve t.target = b.idOf? t.target) :
    names.edits (.transition t.source (some t.symbol) t.target) =
        (b.edge? t).toList.map Transition.edit ∧
      names.causes (.transition t.source (some t.symbol) t.target) =
        (b.edgeFault? t).toList.filterMap Fault.cause? := by
  simp only [Names.edits, Names.causes, Names.resolveTransition, hsource, htarget, edge?,
    edgeFault?, undeclared?]
  cases b.idOf? t.source with
  | none => exact ⟨rfl, rfl⟩
  | some p => cases b.idOf? t.target <;> exact ⟨rfl, rfl⟩

/-! ### The sections of a blueprint -/

theorem asks_startSection (hplain : ∀ n ∈ b.start.toList, PlainName n.toList)
    (hres : ∀ n ∈ b.start.toList, names.resolve n = b.idOf? n) :
    Asks names (listLine startLabel (b.start.toList.map String.toList))
      ((b.start.bind b.idOf?).toList.map .setStart)
      ((b.start.toList.filterMap (b.undeclared? .unknownStart)).filterMap Fault.cause?) := by
  cases hstart : b.start with
  | none => exact Asks.nil
  | some n =>
    rw [hstart] at hplain hres
    have hn : names.resolve n = b.idOf? n := hres n (by simp)
    have hasks := asks_startLine names (hplain n (by simp))
    rw [causes_start hn, Names.edits, hn] at hasks
    rw [Option.toList_some, List.filterMap_eq_flatMap_toList _ [n], List.flatMap_singleton]
    exact hasks

theorem asks_acceptingSection (hplain : ∀ n ∈ b.accepting, PlainName n.toList)
    (hres : ∀ n ∈ b.accepting, names.resolve n = b.idOf? n) :
    Asks names (listLine acceptingLabel (b.accepting.map String.toList))
      ((b.accepting.filterMap b.idOf?).map .addAccepting)
      ((b.accepting.filterMap (b.undeclared? .unknownAccepting)).filterMap Fault.cause?) := by
  have hasks := asks_acceptingLine names hplain
  rw [causes_accepting hres, Names.edits, List.filterMap_congr hres] at hasks
  exact hasks

theorem asks_transitionSection
    (hplain : ∀ t ∈ b.transitions,
      PlainName t.source.toList ∧ PlainName t.target.toList ∧ PlainSymbol t.symbol)
    (hres : ∀ t ∈ b.transitions,
      names.resolve t.source = b.idOf? t.source ∧ names.resolve t.target = b.idOf? t.target) :
    Asks names (b.transitions.map fun t => edgeLine t.source.toList t.symbol t.target.toList)
      ((b.transitions.filterMap b.edge?).map Transition.edit)
      ((b.transitions.filterMap b.edgeFault?).filterMap Fault.cause?) := by
  rw [List.map_eq_flatMap, List.filterMap_eq_flatMap_toList b.edge?, List.map_flatMap,
    List.filterMap_eq_flatMap_toList b.edgeFault?, List.filterMap_flatMap]
  refine Asks.flatMap fun t ht => ?_
  obtain ⟨hsource, htarget, hsymbol⟩ := hplain t ht
  obtain ⟨hedits, hcauses⟩ := edits_causes_transition (hres t ht).1 (hres t ht).2
  rw [← hedits, ← hcauses]
  exact asks_edgeLine names hsource htarget hsymbol

namespace IsPlain

theorem plain_transition (h : b.IsPlain) :
    ∀ t ∈ b.transitions,
      PlainName t.source.toList ∧ PlainName t.target.toList ∧ PlainSymbol t.symbol := by
  intro t ht
  refine ⟨h.name _ (source_mem_mentioned ht), h.name _ (target_mem_mentioned ht),
    h.symbol _ (List.mem_append_right _ (List.mem_map_of_mem ht))⟩

theorem lineFeed_not_mem (h : b.IsPlain) : ∀ line ∈ b.describeLines, '\n' ∉ line := by
  have hitems {ns : List String} (hns : ∀ n ∈ ns, n ∈ b.mentioned) :=
    plainItem_of_plainNames fun n hn => h.name n (hns n hn)
  have hsymbols := plainItem_of_plainSymbols fun c hc => h.symbol c (List.mem_append_left _ hc)
  intro line hline
  simp only [describeLines, List.mem_append] at hline
  rcases hline with (((hline | hline) | hline) | hline) | hline
  · exact (trim_listLine (by decide)
      (hitems fun n hn => mem_mentioned_iff.mpr (Or.inl hn)) line hline).2.2
  · exact (trim_listLine (by decide) hsymbols line hline).2.2
  · exact (trim_listLine (by decide)
      (hitems fun n hn => mem_mentioned_iff.mpr (Or.inr (Or.inl (Option.mem_toList.mp hn))))
      line hline).2.2
  · exact (trim_listLine (by decide)
      (hitems fun n hn => mem_mentioned_iff.mpr (Or.inr (Or.inr (Or.inl hn)))) line hline).2.2
  · obtain ⟨t, ht, rfl⟩ := List.mem_map.mp hline
    obtain ⟨hsource, htarget, hsymbol⟩ := h.plain_transition t ht
    exact (trim_edgeLine hsource htarget hsymbol).2.2

/-- **Reading the description of a plain blueprint** performs its edits, and there is a warning for
each of its faults. -/
theorem read_describe (h : b.IsPlain) :
    (read b.describe).automaton = Automaton.empty.editAll b.edits ∧
      (read b.describe).warnings.map Warning.cause = b.faults.filterMap Fault.cause? := by
  have hstates : ∀ n ∈ b.states, n ∈ b.mentioned := fun n hn => mem_mentioned_iff.mpr (Or.inl hn)
  have hstart : ∀ n ∈ b.start.toList, n ∈ b.mentioned :=
    fun n hn => mem_mentioned_iff.mpr (Or.inr (Or.inl (Option.mem_toList.mp hn)))
  have haccepting : ∀ n ∈ b.accepting, n ∈ b.mentioned :=
    fun n hn => mem_mentioned_iff.mpr (Or.inr (Or.inr (Or.inl hn)))
  have hlines : b.describeLines = listLine statesLabel (b.states.map String.toList) ++
      (listLine alphabetLabel (b.symbols.map fun c => [c]) ++
        listLine startLabel (b.start.toList.map String.toList) ++
        listLine acceptingLabel (b.accepting.map String.toList) ++
        b.transitions.map fun t => edgeLine t.source.toList t.symbol t.target.toList) := by
    simp only [describeLines, List.append_assoc]
  have hread : Description.read b.describe =
      readChars (b.describeLines.flatMap fun line => line ++ ['\n']) := by
    rw [Description.read, describe, String.toList_ofList]
  have hlineFeed := h.lineFeed_not_mem
  rw [hlines] at hlineFeed
  obtain ⟨hautomaton, hcauses⟩ := readChars_sections (fun n hn => h.name n (hstates n hn))
    hlineFeed (fun r hr hdeclared => by
      have hres : ∀ n ∈ b.mentioned, r.names.resolve n = b.idOf? n :=
        fun n hn => h.resolve_eq hr hdeclared hn
      -- the lines after the first one, section by section
      exact (((asks_alphabetLine r.names fun c hc =>
          h.symbol c (List.mem_append_left _ hc)).append
        (asks_startSection (fun n hn => h.name n (hstart n hn)) fun n hn =>
          hres n (hstart n hn))).append
        (asks_acceptingSection (fun n hn => h.name n (haccepting n hn)) fun n hn =>
          hres n (haccepting n hn))).append
        (asks_transitionSection h.plain_transition fun t ht =>
          ⟨hres _ (source_mem_mentioned ht), hres _ (target_mem_mentioned ht)⟩))
    (show b.describeLines.flatMap _ = _ by rw [hlines])
  rw [hread, hautomaton, hcauses]
  constructor
  · simp only [edits, List.append_assoc]
  · simp only [faults, List.nil_append, List.filterMap_append]

end IsPlain

/-! ### Building and reading -/

/-- **The strict builder and the lenient reader agree.**  For calls that ask for a plain blueprint,
building succeeds if and only if the description of the blueprint is read without a warning, and
then both give the same automaton.  Where building fails, the first warning has the cause of the
fault, with the same name. -/
theorem build_agrees_with_read (calls : List Call) (h : (sections calls).IsPlain) :
    ((∃ d, (ofCalls calls).build = .ok d) ↔ (read (sections calls).describe).isClean = true) ∧
    (∀ d, (ofCalls calls).build = .ok d → (read (sections calls).describe).automaton = d) ∧
    ∀ fault, (ofCalls calls).build = .error fault →
      ∃ w, (read (sections calls).describe).warnings.head? = some w ∧
        fault.cause? = some w.cause := by
  rw [ofCalls_eq]
  obtain ⟨b, hb⟩ : ∃ b, b = sections calls := ⟨_, rfl⟩
  rw [← hb] at h ⊢
  obtain ⟨hautomaton, hcauses⟩ := h.read_describe
  have hfails := failsWith_build b
  have hrepeated : firstRepeated [] b.states = none :=
    firstRepeated_eq_none_iff.mpr ⟨h.distinct, by simp⟩
  rw [hrepeated, Option.map_none, Option.none_or] at hfails
  refine ⟨?_, fun d hd => ?_, fun fault hfault => ?_⟩
  · rw [hfails.exists_ok_iff, List.head?_eq_none_iff, isClean, List.isEmpty_iff,
      ← List.map_eq_nil_iff (f := Warning.cause), hcauses, List.filterMap_eq_nil_iff]
    constructor
    · intro hnil
      simp [hnil]
    · intro hnone
      refine List.eq_nil_iff_forall_not_mem.mpr fun fault hfault => ?_
      obtain ⟨cause, hcause⟩ := exists_cause_of_mem_faults hfault
      rw [hnone fault hfault] at hcause
      exact nomatch hcause
  · rw [hautomaton, eq_editAll_of_build hd]
  · have hhead := (hfails fault).mp hfault
    obtain ⟨rest, hfaults⟩ := List.head?_eq_some_iff.mp hhead
    obtain ⟨cause, hcause⟩ := exists_cause_of_mem_faults (List.mem_of_mem_head? hhead)
    rw [hfaults, List.filterMap_cons_some hcause] at hcauses
    obtain ⟨w, ws, hwarnings, rfl, -⟩ := List.map_eq_cons_iff.mp hcauses
    exact ⟨w, by rw [hwarnings]; rfl, hcause⟩

/-- A gate that opens on a symbol of the notation itself, with a transition before its states. -/
def tollGate : List Call :=
  [.transition ⟨"shut", '-', "open"⟩, .state "open", .start "shut", .accepting "open",
    .state "shut"]

/-- A transition from the gate to a name that only resembles one of its states. -/
def strayEdge : Call :=
  .transition ⟨"open", '-', "shut:"⟩

/-- The gate is built and its description read without a warning; with the stray transition both
end at the same name. -/
theorem build_agrees_with_read_tollGate :
    ((sections tollGate).IsPlain ∧ ∃ d, (ofCalls tollGate).build = .ok d ∧
      (read (sections tollGate).describe).isClean = true ∧
      (read (sections tollGate).describe).automaton = d) ∧
    (sections (tollGate ++ [strayEdge])).IsPlain ∧
      (ofCalls (tollGate ++ [strayEdge])).build = .error (.unknownTarget "shut:") ∧
      ∃ w, (read (sections (tollGate ++ [strayEdge])).describe).warnings.head? = some w ∧
        w.cause = .unknownTarget "shut:" := by
  have hsymbols : ∀ c ∈ ['-', '-'], PlainSymbol c := by
    intro c hc
    obtain rfl : c = '-' := by simpa using hc
    decide
  have hgate : (sections tollGate).IsPlain :=
    ⟨by decide, by decide +kernel, by decide +kernel, fun c hc =>
      hsymbols c (List.mem_cons_of_mem _ hc)⟩
  have hstray : (sections (tollGate ++ [strayEdge])).IsPlain :=
    ⟨by decide, by decide +kernel, by decide +kernel, hsymbols⟩
  obtain ⟨d, hd⟩ : ∃ d, (ofCalls tollGate).build = .ok d := ⟨_, rfl⟩
  obtain ⟨hclean, hautomaton, -⟩ := build_agrees_with_read tollGate hgate
  have hfault : (ofCalls (tollGate ++ [strayEdge])).build = .error (.unknownTarget "shut:") := rfl
  obtain ⟨w, hw, hcause⟩ := (build_agrees_with_read _ hstray).2.2 _ hfault
  exact ⟨⟨hgate, d, hd, hclean.mp ⟨d, hd⟩, hautomaton d hd⟩, hstray, hfault, w, hw,
    (Option.some.inj hcause).symm⟩

end Blueprint

end AutomatonKit
