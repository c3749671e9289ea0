import Mathlib
import AutomatonKit.Timestamp.Reader
import AutomatonKit.Timestamp.Writer

/-!
# Timestamps that are read are valid, and valid ones have short texts

`isValid_of_read`: every timestamp that is read exists.  `length_write_le`: the text of a timestamp
that exists has at most 33 characters.
-/

namespace AutomatonKit.Timestamp

theorem isValid_of_readChars {s : List Char} {t : Timestamp} (h : readChars s = some t) :
    t.isValid = true := by
  simp only [readChars, Option.bind_eq_bind, Option.bind_eq_some_iff] at h
  -- what was read before does not matter: the last step checks the moment itself
  obtain ⟨⟨date, s₁⟩, -, s₂, -, ⟨shown, s₃⟩, -, ⟨ahead, s₄⟩, -, h⟩ := h
  dsimp only at h
  split at h
  · next hvalid =>
    rw [← Option.some.inj h]
    exact (Bool.and_eq_true_iff.mp hvalid).2
  · exact absurd h (by simp)

theorem isValid_of_read {text : String} {t : Timestamp} (h : read text = some t) :
    t.isValid = true :=
  isValid_of_readChars h

/-- A number has no more digits than its width, if it is small enough. -/
theorem length_padded_le {width n k : Nat} (hk : 0 < k) (hwidth : width ≤ k) (hn : n < 10 ^ k) :
    (padded width n).length ≤ k := by
  have hdigits : (Nat.toDigits 10 n).length ≤ k :=
    (Nat.length_toDigits_le_iff (by decide) hk).mpr hn
  rw [padded, List.length_append, List.length_replicate]
  omega

theorem length_writeYear_le {year : Int} (h : year.natAbs < 10 ^ 6) :
    (writeYear year).length ≤ 7 := by
  have hpadded : (padded 4 year.natAbs).length ≤ 6 := length_padded_le (by decide) (by decide) h
  unfold writeYear
  split_ifs
  · exact Nat.succ_le_succ hpadded
  · exact Nat.succ_le_succ hpadded
  · exact hpadded.trans (by decide)

theorem length_writeFraction_le {nanosecond : Nat} (h : nanosecond < 10 ^ 9) :
    (writeFraction nanosecond).length ≤ 10 := by
  have h₃ : (padded 3 (nanosecond / 1000000)).length ≤ 3 :=
    length_padded_le (by decide) (by decide) (by omega)
  have h₆ : (padded 6 (nanosecond / 1000)).length ≤ 6 :=
    length_padded_le (by decide) (by decide) (by omega)
  have h₉ : (padded 9 nanosecond).length ≤ 9 := length_padded_le (by decide) (by decide) h
  unfold writeFraction
  split_ifs
  · exact Nat.zero_le _
  · exact Nat.succ_le_succ (h₃.trans (by decide))
  · exact Nat.succ_le_succ (h₆.trans (by decide))
  · exact Nat.succ_le_succ h₉

theorem daysInMonth_le (year : Int) (month : Nat) : Date.daysInMonth year month ≤ 31 := by
  unfold Date.daysInMonth
  split <;> first | omega | (split <;> omega)

theorem daysInMonth_of_lt (year : Int) {month : Nat} (h : 12 < month) :
    Date.daysInMonth year month = 0 := by
  unfold Date.daysInMonth
  split <;> omega

/-- **The text of a timestamp is short.** -/
theorem length_write_le {t : Timestamp} (h : t.isValid = true) : t.write.length ≤ 33 := by
  simp only [isValid, Date.isValid, Bool.and_eq_true, decide_eq_true_eq] at h
  obtain ⟨⟨⟨⟨⟨⟨⟨hmin, hmax⟩, hfirst⟩, hlast⟩, hhour⟩, hminute⟩, hsecond⟩, hnanosecond⟩ := h
  have hyear : t.date.year.natAbs < 10 ^ 6 := by
    unfold Date.minYear at hmin
    unfold Date.maxYear at hmax
    omega
  have hday := daysInMonth_le t.date.year t.date.month
  -- a month beyond December has no days
  have hmonth : t.date.month ≤ 12 := by
    by_contra hmonth
    have hnone := daysInMonth_of_lt t.date.year (Nat.lt_of_not_le hmonth)
    omega
  have htwo : ∀ {n : Nat}, n < 100 → (padded 2 n).length ≤ 2 := fun hn =>
    length_padded_le (by decide) (by decide) hn
  have h₁ := length_writeYear_le hyear
  have h₂ := htwo (n := t.date.month) (by omega)
  have h₃ := htwo (n := t.date.day) (by omega)
  have h₄ := htwo (n := t.hour) (by omega)
  have h₅ := htwo (n := t.minute) (by omega)
  have h₆ := htwo (n := t.second) (by omega)
  have h₇ := length_writeFraction_le hnanosecond
  rw [write, String.length_ofList]
  simp only [List.length_append, List.length_cons, List.length_nil]
  omega

/-- A text has at most four bytes for each of its characters. -/
theorem utf8ByteSize_le (text : String) : text.utf8ByteSize ≤ 4 * text.length := by
  have hbytes : ∀ cs : List Char, (cs.flatMap String.utf8EncodeChar).length ≤ 4 * cs.length := by
    intro cs
    induction cs with
    | nil => rfl
    | cons c cs ih =>
      have hc := c.utf8Size_le_four
      rw [List.flatMap_cons, List.length_append, String.length_utf8EncodeChar, List.length_cons]
      omega
  have hsize : text.utf8ByteSize = (text.toList.flatMap String.utf8EncodeChar).length := by
    rw [← String.size_toByteArray, ← String.utf8Encode_toList, List.utf8Encode,
      List.size_toByteArray]
  rw [hsize, ← String.length_toList]
  exact hbytes text.toList

end AutomatonKit.Timestamp
