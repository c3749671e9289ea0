import Mathlib
import AutomatonKit.Proofs.Description.Lines
import AutomatonKit.Proofs.Description.Reading

/-!
# The layout of a description

A line acts through its directive.  The line itself is seen again only in the texts of warnings.
`ReadAlike` says of two lines that both are blank or both stand for the same directive, whatever
blanks there are in them.  Lines that are pairwise read alike give the same automaton and the same
names, and the same warnings up to these texts (`SameButTexts.foldl_readLine`).

`readAlike_label` is about blanks in labelled lines.
-/

namespace AutomatonKit.Description

open Text Reading

/-- What a warning says apart from the text of the line. -/
def Warning.note (w : Warning) : Nat × Cause :=
  (w.line, w.cause)

/-- Two readings differ at most in the texts of their warnings. -/
structure Reading.SameButTexts (r r' : Reading) : Prop where
  automaton_eq : r.automaton = r'.automaton
  names_eq : r.names = r'.names
  notes_eq : r.warnings.map Warning.note = r'.warnings.map Warning.note

/-- Two lines mean the same. -/
structure ReadAlike (line line' : List Char) : Prop where
  blank_iff : trim line = [] ↔ trim line' = []
  ofLine_eq : Directive.ofLine (trim line) = Directive.ofLine (trim line')

namespace ReadAlike

variable {line line' line'' : List Char}

theorem refl (line : List Char) : ReadAlike line line :=
  ⟨Iff.rfl, rfl⟩

theorem trans (h : ReadAlike line line') (h' : ReadAlike line' line'') : ReadAlike line line'' :=
  ⟨h.blank_iff.trans h'.blank_iff, h.ofLine_eq.trans h'.ofLine_eq⟩

theorem of_trim_eq (h : trim line = trim line') : ReadAlike line line' :=
  ⟨by rw [h], by rw [h]⟩

/-- Blanks in front of lines do not matter. -/
theorem blanks_append {w : List Char} (hw : ∀ c ∈ w, isBlank c = true)
    (h : ReadAlike line line') : ReadAlike (w ++ line) (w ++ line') := by
  have hline : ReadAlike (w ++ line) line := .of_trim_eq (trim_blanks_append hw line)
  have hline' : ReadAlike line' (w ++ line') := .of_trim_eq (trim_blanks_append hw line').symm
  exact (hline.trans h).trans hline'

end ReadAlike

/-! ### Reading lines that mean the same -/

namespace Reading.SameButTexts

variable {r r' : Reading}

theorem refl (r : Reading) : r.SameButTexts r :=
  ⟨rfl, rfl, rfl⟩

theorem apply (h : r.SameButTexts r') (number : Nat) (line line' : List Char)
    (directive : Directive) :
    (r.apply number line directive).SameButTexts (r'.apply number line' directive) where
  automaton_eq := by
    rw [automaton_apply, automaton_apply, h.automaton_eq, h.names_eq]
  names_eq := names_apply_congr h.automaton_eq h.names_eq number line line' directive
  notes_eq := by
    rw [warnings_apply, warnings_apply, List.map_append, List.map_append, h.notes_eq, h.names_eq,
      List.map_map, List.map_map]
    rfl

theorem readLine (h : r.SameButTexts r') {line line' : List Char} (hl : ReadAlike line line')
    (number : Nat) : (r.readLine (line, number)).SameButTexts (r'.readLine (line', number)) := by
  rw [readLine_eq, readLine_eq, hl.ofLine_eq]
  simp only [hl.blank_iff]
  split
  · exact h
  · exact h.apply number _ _ _

/-- **Lines that are pairwise read alike** are read alike as a whole. -/
theorem foldl_readLine (h : r.SameButTexts r') {lines lines' : List (List Char)}
    (hl : List.Forall₂ ReadAlike lines lines') (number : Nat) :
    ((lines.zipIdx number).foldl Reading.readLine r).SameButTexts
      ((lines'.zipIdx number).foldl Reading.readLine r') := by
  induction hl generalizing r r' number with
  | nil => exact h
  | cons hline _ ih => exact ih (h.readLine hline number) (number + 1)

end Reading.SameButTexts

/-! ### Labelled lines -/

/-- Labelled lines mean the same if they have the same items, and those that choose the start state
if they have the same name. -/
theorem readAlike_label {label rest rest' : List Char} (hlabel : label ∈ labels)
    (htokens : tokens rest = tokens rest') (htrim : label = startLabel → trim rest = trim rest') :
    ReadAlike (label ++ rest) (label ++ rest') := by
  have hne : ∀ s, trim (label ++ s) ≠ [] := by
    intro s hs
    rw [trim_label_append hlabel, List.append_eq_nil_iff] at hs
    exact label_ne_nil label hlabel hs.1
  refine ⟨iff_of_false (hne rest) (hne rest'), ?_⟩
  rw [ofLine_trim_label hlabel, ofLine_trim_label hlabel, ofLine_label_congr hlabel htokens htrim]

end AutomatonKit.Description
