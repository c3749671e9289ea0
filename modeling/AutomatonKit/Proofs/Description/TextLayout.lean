import Mathlib
import AutomatonKit.Proofs.Description.Spacing

/-!
# The layout of a text

A text is read line by line, and each line is trimmed first.  So it does not matter whether lines
end with a line feed or with a carriage return and a line feed, because the carriage return is a
blank at the end of its line (`read_joinLines`).

`read_of_other_layout` has three parts.  Blanks at the ends of lines change nothing at all.  Blanks
at other places where they have no meaning (`Spaced`) change only the texts of the warnings.  Lines
that are blank change only the numbers in the warnings about later lines: a warning about a line is
shifted by the lines that were put in before this line (`Warning.shift`).
-/

namespace AutomatonKit.Description

open Text

/-! ### Line ends -/

/-- What can stand between two lines. -/
def lineEnds : List (List Char) :=
  [['\n'], ['\r', '\n']]

/-- The text of some lines. -/
def joinLines (lineEnd : List Char) (lines : List (List Char)) : String :=
  String.ofList (List.intercalate lineEnd lines)

variable {lineEnd : List Char} {lines lines' : List (List Char)}

/-- A line end is a line feed after blanks. -/
theorem exists_of_mem_lineEnds (h : lineEnd ∈ lineEnds) : ∃ w, lineEnd = w ++ ['\n'] ∧ Spaces w := by
  rcases List.mem_pair.mp h with rfl | rfl
  · exact ⟨[], rfl, by decide⟩
  · exact ⟨['\r'], rfl, by decide⟩

/-- The lines of a text are those that were joined, but for blanks at their ends. -/
theorem forall₂_splitOn_intercalate (hend : lineEnd ∈ lineEnds) {line : List Char}
    (hline : '\n' ∉ line) (hlines : ∀ l ∈ lines, '\n' ∉ l) :
    List.Forall₂ (fun l piece => trim piece = trim l) (line :: lines)
      (splitOn '\n' (List.intercalate lineEnd (line :: lines))) := by
  obtain ⟨w, rfl, hw⟩ := exists_of_mem_lineEnds hend
  rw [splitOn_eq]
  induction lines generalizing line with
  | nil =>
    rw [List.intercalate_singleton, List.splitOn_eq_singleton hline]
    exact .cons rfl .nil
  | cons next lines ih =>
    rw [List.forall_mem_cons] at hlines
    -- the blanks of the line end go to the line before it
    have hjoin : List.intercalate (w ++ ['\n']) (line :: next :: lines) =
        (line ++ w) ++ '\n' :: List.intercalate (w ++ ['\n']) (next :: lines) := by
      rw [List.intercalate_cons_cons]
      simp
    rw [hjoin, List.splitOn_append_cons_self_of_not_mem
      (List.not_mem_append hline hw.lineFeed_not_mem)]
    exact .cons (trim_append_blanks hw.isBlank line) (ih hlines.1 hlines.2)

/-- Lines that are the same when they are trimmed are read in the same way. -/
theorem Reading.foldl_readLine_congr (h : List.Forall₂ (fun l l' => trim l' = trim l) lines lines')
    (r : Reading) (number : Nat) :
    (lines'.zipIdx number).foldl Reading.readLine r =
      (lines.zipIdx number).foldl Reading.readLine r := by
  induction h generalizing r number with
  | nil => rfl
  | @cons l l' _ _ hline _ ih =>
    have hfirst : r.readLine (l', number) = r.readLine (l, number) := by
      rw [readLine_eq, readLine_eq, hline]
    rw [List.zipIdx_cons, List.zipIdx_cons, List.foldl_cons, List.foldl_cons, hfirst]
    exact ih _ _

/-- **A text is read line by line**, whatever stands between its lines. -/
theorem read_joinLines (hend : lineEnd ∈ lineEnds) (hlines : ∀ line ∈ lines, '\n' ∉ line) :
    read (joinLines lineEnd lines) = (lines.zipIdx 1).foldl Reading.readLine .empty := by
  rw [read, joinLines, String.toList_ofList, readChars, numberedLines]
  cases lines with
  | nil => rfl
  | cons line lines =>
    rw [List.forall_mem_cons] at hlines
    exact Reading.foldl_readLine_congr (forall₂_splitOn_intercalate hend hlines.1 hlines.2) _ _

/-! ### Blanks in lines -/

/-- The second line is the first one with blanks at its ends. -/
def Padded (line line' : List Char) : Prop :=
  ∃ u v, Spaces u ∧ Spaces v ∧ line' = u ++ line ++ v

theorem Padded.trim_eq {line line' : List Char} (h : Padded line line') : trim line' = trim line := by
  obtain ⟨u, v, hu, hv, rfl⟩ := h
  exact trim_append_of_blank hu.isBlank hv.isBlank line

theorem Padded.lineFeed_not_mem {line line' : List Char} (h : Padded line line')
    (hline : '\n' ∉ line) : '\n' ∉ line' := by
  obtain ⟨u, v, hu, hv, rfl⟩ := h
  exact List.not_mem_append (List.not_mem_append hu.lineFeed_not_mem hline) hv.lineFeed_not_mem

/-- What holds of a line and is kept by a change of it holds after all lines are changed. -/
theorem forall_mem_of_forall₂ {P : List Char → Prop} {R : List Char → List Char → Prop}
    (hR : ∀ l l', R l l' → P l → P l') (h : List.Forall₂ R lines lines') (hP : ∀ l ∈ lines, P l) :
    ∀ l ∈ lines', P l := by
  induction h with
  | nil => exact hP
  | cons hfirst _ ih =>
    rw [List.forall_mem_cons] at hP ⊢
    exact ⟨hR _ _ hfirst hP.1, ih hP.2⟩

/-! ### Blank lines -/

/-- Each line with further lines in front of it: `more i` before the line of index `i`. -/
def precededLines (more : Nat → List (List Char)) (lines : List (List Char)) : List (List Char) :=
  lines.zipIdx.flatMap fun (line, i) => more i ++ [line]

/-- The lines with further lines before, between and after them. -/
def insertLines (more : Nat → List (List Char)) (lines : List (List Char)) : List (List Char) :=
  precededLines more lines ++ more lines.length

/-- How many lines are put in before the line with a given number, where the first line has the
number 1. -/
def insertedBefore (more : Nat → List (List Char)) (number : Nat) : Nat :=
  ((List.range number).flatMap more).length

/-- What becomes of a warning when lines are put in: the line that it is about has another
number. -/
def Warning.shift (more : Nat → List (List Char)) (w : Warning) : Warning :=
  { w with line := w.line + insertedBefore more w.line }

variable {more : Nat → List (List Char)}

theorem precededLines_concat (more : Nat → List (List Char)) (lines : List (List Char))
    (line : List Char) :
    precededLines more (lines ++ [line]) =
      precededLines more lines ++ (more lines.length ++ [line]) := by
  rw [precededLines, List.zipIdx_append, List.flatMap_append, precededLines]
  simp

theorem insertedBefore_succ (more : Nat → List (List Char)) (number : Nat) :
    insertedBefore more (number + 1) = insertedBefore more number + (more number).length := by
  rw [insertedBefore, List.range_succ, List.flatMap_append, List.length_append,
    List.flatMap_singleton, insertedBefore]

theorem length_precededLines (more : Nat → List (List Char)) (lines : List (List Char)) :
    (precededLines more lines).length = lines.length + insertedBefore more lines.length := by
  induction lines using List.reverseRecOn with
  | nil => rfl
  | append_singleton lines line ih =>
    rw [precededLines_concat, List.length_append, ih, List.length_append, List.length_append,
      List.length_singleton, insertedBefore_succ]
    omega

/-- The second reading is the first one with other numbers in the warnings. -/
structure Reading.Shifted (more : Nat → List (List Char)) (r r' : Reading) : Prop where
  automaton_eq : r'.automaton = r.automaton
  names_eq : r'.names = r.names
  warnings_eq : r'.warnings = r.warnings.map (Warning.shift more)

namespace Reading

/-- The number of a line only matters for warnings. -/
theorem names_readLine_number (r : Reading) (line : List Char) (number number' : Nat) :
    (r.readLine (line, number)).names = (r.readLine (line, number')).names := by
  rw [readLine_eq, readLine_eq]
  split
  · rfl
  · rw [names_apply, names_apply]

theorem Shifted.readLine {r r' : Reading} (h : Shifted more r r') (line : List Char)
    (number : Nat) :
    Shifted more (r.readLine (line, number))
      (r'.readLine (line, number + insertedBefore more number)) where
  automaton_eq := by
    rw [automaton_readLine, automaton_readLine, h.automaton_eq, h.names_eq]
  names_eq := by
    rw [names_readLine_number r' line _ number]
    exact names_readLine_congr h.automaton_eq h.names_eq line number
  warnings_eq := by
    rw [warnings_readLine, warnings_readLine, List.map_append, h.warnings_eq, h.names_eq,
      List.map_map]
    rfl

theorem foldl_readLine_of_blank (h : ∀ line ∈ lines, trim line = []) (r : Reading) (number : Nat) :
    (lines.zipIdx number).foldl readLine r = r := by
  induction lines generalizing number with
  | nil => rfl
  | cons line lines ih =>
    rw [List.forall_mem_cons] at h
    rw [List.zipIdx_cons, List.foldl_cons, readLine_eq, if_pos h.1]
    exact ih h.2 _

/-- **Blank lines are passed over**, and each line after them is read under its new number. -/
theorem shifted_foldl_readLine (hmore : ∀ i, ∀ line ∈ more i, trim line = [])
    (lines : List (List Char)) :
    Shifted more ((lines.zipIdx 1).foldl readLine .empty)
      (((precededLines more lines).zipIdx 1).foldl readLine .empty) := by
  -- from the first line on: what is put in before a line stands in front of it
  induction lines using List.reverseRecOn with
  | nil => exact ⟨rfl, rfl, rfl⟩
  | append_singleton lines line ih =>
    have hnumber : 1 + (precededLines more lines).length + (more lines.length).length =
        (1 + lines.length) + insertedBefore more (1 + lines.length) := by
      rw [length_precededLines, Nat.add_comm 1 lines.length, insertedBefore_succ]
      omega
    rw [precededLines_concat, List.zipIdx_append, List.zipIdx_append, List.zipIdx_append,
      List.foldl_append, List.foldl_append, List.foldl_append, foldl_readLine_of_blank (hmore _),
      hnumber]
    exact ih.readLine line _

end Reading

/-! ### Other layouts of a text -/

/-- **The layout of a text does not matter.**  Take lines without line feeds, which are joined with
one of the two line ends.  The text is read in the same way with either of them, and with blanks at
the ends of its lines.  With blanks at other places where they have no meaning, the automaton is the
same, and so are the warnings but for the texts of the lines.  With blank lines before, between and
after the lines, the automaton is the same, and the warnings differ in the numbers of the lines that
follow blank lines. -/
theorem read_of_other_layout (lines : List (List Char)) (hlines : ∀ line ∈ lines, '\n' ∉ line)
    (lineEnd lineEnd' : List Char) (hend : lineEnd ∈ lineEnds) (hend' : lineEnd' ∈ lineEnds) :
    (∀ lines', List.Forall₂ Padded lines lines' →
      read (joinLines lineEnd' lines') = read (joinLines lineEnd lines)) ∧
    (∀ lines', List.Forall₂ Spaced lines lines' →
      (read (joinLines lineEnd' lines')).automaton = (read (joinLines lineEnd lines)).automaton ∧
      (read (joinLines lineEnd' lines')).warnings.map Warning.note =
        (read (joinLines lineEnd lines)).warnings.map Warning.note) ∧
    (∀ more : Nat → List (List Char), (∀ i, ∀ line ∈ more i, Spaces line) →
      (read (joinLines lineEnd' (insertLines more lines))).automaton =
        (read (joinLines lineEnd lines)).automaton ∧
      (read (joinLines lineEnd' (insertLines more lines))).warnings =
        (read (joinLines lineEnd lines)).warnings.map (Warning.shift more)) := by
  rw [read_joinLines hend hlines]
  refine ⟨fun lines' h => ?_, fun lines' h => ?_, fun more hmore => ?_⟩
  · have hlines' := forall_mem_of_forall₂ (fun _ _ hpadded => hpadded.lineFeed_not_mem) h hlines
    rw [read_joinLines hend' hlines']
    exact Reading.foldl_readLine_congr (h.imp fun _ _ hpadded => hpadded.trim_eq) _ _
  · have hlines' := forall_mem_of_forall₂ (fun _ _ hspaced => hspaced.lineFeed_not_mem) h hlines
    have hsame := (Reading.SameButTexts.refl .empty).foldl_readLine
      (h.imp fun _ _ hspaced => hspaced.readAlike) 1
    rw [read_joinLines hend' hlines']
    exact ⟨hsame.automaton_eq.symm, hsame.notes_eq.symm⟩
  · have hlines' : ∀ line ∈ insertLines more lines, '\n' ∉ line := by
      intro line hline
      rcases List.mem_append.mp hline with hline | hline
      · obtain ⟨⟨l, i⟩, hl, hline⟩ := List.mem_flatMap.mp hline
        rcases List.mem_append.mp hline with hline | hline
        · exact (hmore i line hline).lineFeed_not_mem
        · rw [List.mem_singleton.mp hline]
          exact hlines l (List.fst_mem_of_mem_zipIdx hl)
      · exact (hmore _ line hline).lineFeed_not_mem
    have hblank : ∀ i, ∀ line ∈ more i, trim line = [] :=
      fun i line hline => trim_eq_nil_iff.mpr (hmore i line hline).isBlank
    have hshifted := Reading.shifted_foldl_readLine hblank lines
    rw [read_joinLines hend' hlines', insertLines, List.zipIdx_append, List.foldl_append,
      Reading.foldl_readLine_of_blank (hblank _)]
    exact ⟨hshifted.automaton_eq, hshifted.warnings_eq⟩

/-- Two states, an edge, and a line that is skipped. -/
def doorLines : List (List Char) :=
  [statesLabel ++ [' ', 's', ',', 'o'], ['s', ',', 'k', '-', '>', 'o'], ['?']]

/-- `doorLines` with blanks around a comma, around the arrow and at the end of the last line. -/
def airyDoorLines : List (List Char) :=
  [statesLabel ++ [' ', 's', ' ', ',', '\t', 'o'], ['s', ',', 'k', ' ', '-', '>', '\t', 'o'],
    ['?', ' ']]

/-- The edge of `doorLines` is found between the blanks of `airyDoorLines`, and the warning about
their last line is about the sixth line when a blank line stands in front of each of them. -/
theorem read_of_other_layout_doorLines :
    (∀ line ∈ doorLines, '\n' ∉ line) ∧ List.Forall₂ Spaced doorLines airyDoorLines ∧
      (read (joinLines ['\r', '\n'] airyDoorLines)).automaton.transitions = [⟨0, 'k', 1⟩] ∧
      (read (joinLines ['\r', '\n'] (insertLines (fun _ => [['\t']]) doorLines))).warnings.map
        Warning.line = [6] := by
  have hlines : ∀ line ∈ doorLines, '\n' ∉ line := by decide
  have hspaces : Spaces [' '] ∧ Spaces ['\t'] := by decide
  have hstates : Respaced (statesLabel ++ [' ', 's', ',', 'o'])
      (statesLabel ++ [' ', 's', ' ', ',', '\t', 'o']) :=
    .listComma (w := []) [' ', 's'] ['o'] (by simp) (show statesLabel ∈ labels by decide)
      (by decide) hspaces.1 hspaces.2
  have hedge : Respaced ['s', ',', 'k', '-', '>', 'o'] ['s', ',', 'k', ' ', '-', '>', '\t', 'o'] :=
    .arrow ['s', ',', 'k'] ['o'] (by decide) hspaces.1 hspaces.2
  have hlast : Respaced ['?'] ['?', ' '] := .ends (u := []) ['?'] .nil hspaces.1
  have hspaced : List.Forall₂ Spaced doorLines airyDoorLines :=
    .cons (.single hstates) (.cons (.single hedge) (.cons (.single hlast) .nil))
  have hblank : ∀ i, ∀ line ∈ (fun _ : Nat => [['\t']]) i, Spaces line := by
    intro _ line hline
    rw [List.mem_singleton.mp hline]
    exact hspaces.2
  obtain ⟨-, hspacedRead, hblankRead⟩ :=
    read_of_other_layout doorLines hlines ['\n'] ['\r', '\n'] (by decide) (by decide)
  refine ⟨hlines, hspaced, ?_, ?_⟩
  · rw [(hspacedRead airyDoorLines hspaced).1]
    decide +kernel
  · rw [(hblankRead _ hblank).2]
    decide +kernel

end AutomatonKit.Description
