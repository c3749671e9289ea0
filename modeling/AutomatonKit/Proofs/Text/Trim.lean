import Mathlib
import AutomatonKit.Text.Blank

/-!
# Trimmed texts

A text is trimmed exactly when neither its first nor its last character is blank
(`trim_eq_self_iff`).  So a text that begins and ends with trimmed texts is trimmed whatever stands
between them (`trim_append_append`).

Blanks at the ends have no effect on `trim` (`trim_append_of_blank`), and they are all that it
removes (`exists_eq_append_trim`).
-/

namespace AutomatonKit.Text

theorem trimStart_eq_self_iff {s : List Char} :
    trimStart s = s ↔ ∀ c ∈ s.head?, isBlank c = false := by
  cases s with
  | nil => simp [trimStart]
  | cons c s =>
    rw [trimStart, List.dropWhile_eq_self_iff]
    simp

theorem trimEnd_eq_self_iff {s : List Char} :
    trimEnd s = s ↔ ∀ c ∈ s.getLast?, isBlank c = false := by
  rw [trimEnd, ← List.head?_reverse, ← trimStart_eq_self_iff, trimStart]
  exact List.reverse_eq_iff

theorem length_trimEnd_le (s : List Char) : (trimEnd s).length ≤ s.length := by
  have hlen : s.reverse.length = s.length := List.length_reverse
  rw [trimEnd, List.length_reverse, ← hlen]
  exact (List.dropWhile_suffix _).length_le

/-- **Trimmed texts** are those that neither begin nor end with a blank. -/
theorem trim_eq_self_iff {s : List Char} :
    trim s = s ↔ (∀ c ∈ s.head?, isBlank c = false) ∧ ∀ c ∈ s.getLast?, isBlank c = false := by
  constructor
  · intro h
    have hstart : trimStart s = s := by
      have hlen := length_trimEnd_le (trimStart s)
      rw [show trimEnd (trimStart s) = s from h] at hlen
      exact (List.dropWhile_suffix isBlank).eq_of_length_le hlen
    have hend : trimEnd s = s := by
      rw [trim, hstart] at h
      exact h
    exact ⟨trimStart_eq_self_iff.mp hstart, trimEnd_eq_self_iff.mp hend⟩
  · rintro ⟨hhead, hlast⟩
    rw [trim, trimStart_eq_self_iff.mpr hhead, trimEnd_eq_self_iff.mpr hlast]

theorem trim_cons_of_blank {c : Char} (hc : isBlank c = true) (s : List Char) :
    trim (c :: s) = trim s := by
  rw [trim, trim, trimStart, trimStart, List.dropWhile_cons_of_pos hc]

theorem isBlank_space : isBlank ' ' = true := by decide

/-- A character that is not blank is its own trimmed form. -/
theorem trim_singleton {c : Char} (hc : isBlank c = false) : trim [c] = [c] :=
  trim_eq_self_iff.mpr ⟨by simpa using hc, by simpa using hc⟩

/-- A text that begins and ends with trimmed texts is trimmed. -/
theorem trim_append_append {a b : List Char} (m : List Char) (ha : trim a = a) (hb : trim b = b)
    (ha' : a ≠ []) (hb' : b ≠ []) : trim (a ++ m ++ b) = a ++ m ++ b := by
  rw [trim_eq_self_iff] at ha hb ⊢
  constructor
  · rw [List.append_assoc, List.head?_append_of_ne_nil _ ha']
    exact ha.1
  · rw [List.getLast?_append_of_ne_nil _ hb']
    exact hb.2

/-! ### Blanks at the ends -/

theorem exists_eq_append_trimEnd (s : List Char) :
    ∃ v, s = trimEnd s ++ v ∧ ∀ c ∈ v, isBlank c = true := by
  refine ⟨(s.reverse.takeWhile isBlank).reverse, ?_, fun c hc => ?_⟩
  · rw [trimEnd, ← List.reverse_append, List.takeWhile_append_dropWhile, List.reverse_reverse]
  · exact List.mem_takeWhile_imp (List.mem_reverse.mp hc)

theorem trimEnd_trimEnd (s : List Char) : trimEnd (trimEnd s) = trimEnd s := by
  unfold trimEnd
  rw [List.reverse_reverse, List.dropWhile_idempotent]

/-- `trim` removes blanks from the ends and nothing else. -/
theorem exists_eq_append_trim (s : List Char) :
    ∃ u v, s = u ++ trim s ++ v ∧ (∀ c ∈ u, isBlank c = true) ∧ ∀ c ∈ v, isBlank c = true := by
  obtain ⟨v, hv, hblank⟩ := exists_eq_append_trimEnd (trimStart s)
  refine ⟨s.takeWhile isBlank, v, ?_, fun c hc => List.mem_takeWhile_imp hc, hblank⟩
  rw [List.append_assoc, trim, ← hv, trimStart, List.takeWhile_append_dropWhile]

/-- **Blanks at the ends do not matter.** -/
theorem trim_append_of_blank {u v : List Char} (hu : ∀ c ∈ u, isBlank c = true)
    (hv : ∀ c ∈ v, isBlank c = true) (s : List Char) : trim (u ++ s ++ v) = trim s := by
  have hend : ∀ x : List Char, trimEnd (x ++ v) = trimEnd x := by
    intro x
    rw [trimEnd, trimEnd, List.reverse_append,
      List.dropWhile_append_of_pos fun c hc => hv c (List.mem_reverse.mp hc)]
  have hstart : trimStart (u ++ s ++ v) = trimStart (s ++ v) := by
    rw [trimStart, trimStart, List.append_assoc, List.dropWhile_append_of_pos hu]
  rw [trim, trim, hstart, trimStart, trimStart, List.dropWhile_append]
  split
  · next h =>
    -- nothing is left of either text
    rw [List.dropWhile_eq_nil_iff.mpr hv, List.isEmpty_iff.mp h]
  · exact hend _

theorem trim_blanks_append {u : List Char} (hu : ∀ c ∈ u, isBlank c = true) (s : List Char) :
    trim (u ++ s) = trim s := by
  simpa using trim_append_of_blank (v := []) hu (by simp) s

theorem trim_append_blanks {v : List Char} (hv : ∀ c ∈ v, isBlank c = true) (s : List Char) :
    trim (s ++ v) = trim s :=
  trim_append_of_blank (u := []) (by simp) hv s

theorem trim_trim (s : List Char) : trim (trim s) = trim s := by
  obtain ⟨u, v, hs, hu, hv⟩ := exists_eq_append_trim s
  rw [← trim_append_of_blank hu hv (trim s), ← hs]

theorem trim_isInfix (s : List Char) : trim s <:+: s := by
  obtain ⟨u, v, hs, -, -⟩ := exists_eq_append_trim s
  exact ⟨u, v, hs.symm⟩

/-- Nothing is left of a text when all of it is blank. -/
theorem trim_eq_nil_iff {s : List Char} : trim s = [] ↔ ∀ c ∈ s, isBlank c = true := by
  constructor
  · intro h
    obtain ⟨u, v, hs, hu, hv⟩ := exists_eq_append_trim s
    rw [h, List.append_nil] at hs
    rw [hs]
    exact List.forall_mem_append.mpr ⟨hu, hv⟩
  · intro h
    have hnil : trim (s ++ []) = trim [] := trim_blanks_append h []
    rwa [List.append_nil] at hnil

/-- The blanks at the beginning are those before the first character that is not blank. -/
theorem trimStart_append_cons {c : Char} (hc : isBlank c = false) (a b : List Char) :
    trimStart (a ++ c :: b) = trimStart a ++ c :: b := by
  unfold trimStart
  rw [List.dropWhile_append, List.dropWhile_cons_of_neg (by simp [hc])]
  split
  · next h => rw [List.isEmpty_iff.mp h, List.nil_append]
  · rfl

theorem trim_trimStart (s : List Char) : trim (trimStart s) = trim s := by
  unfold trim trimStart
  rw [List.dropWhile_idempotent]

theorem trim_prefix_trimStart (s : List Char) : trim s <+: trimStart s := by
  obtain ⟨v, hv, -⟩ := exists_eq_append_trimEnd (trimStart s)
  exact ⟨v, hv.symm⟩

end AutomatonKit.Text
