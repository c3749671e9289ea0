import Mathlib
import AutomatonKit.Json.Reader
import AutomatonKit.Json.Writer

/-!
# Strings and numbers of JSON are read as they were written

`readString_writeString` and `readUnsigned_toDigits`.  A string may hold any characters: each of
them is written as one piece, an escape or itself, and the pieces stand for the characters again
(`exists_piece`).  A number is read up to the first character that cannot belong to it, so something
else has to follow (`EndsNumber`).
-/

namespace AutomatonKit.Json

/-! ### Strings -/

theorem hexValue?_digitChar : ∀ n < 16, hexValue? n.digitChar = some n := by decide

/-- The characters that are escaped by a letter or by themselves. -/
def shortEscapes : List Char :=
  ['"', '\\', '\x08', '\x0c', '\n', '\r', '\t']

theorem escape_of_not_short {c : Char} (h : c ∉ shortEscapes) :
    escape c =
      if c.toNat < 0x20 then
        ['\\', 'u', '0', '0', (c.toNat / 16).digitChar, (c.toNat % 16).digitChar]
      else [c] := by
  simp only [shortEscapes, List.mem_cons, List.not_mem_nil, or_false, not_or] at h
  obtain ⟨h₁, h₂, h₃, h₄, h₅, h₆, h₇⟩ := h
  rw [escape, if_neg h₁, if_neg h₂, if_neg h₃, if_neg h₄, if_neg h₅, if_neg h₆, if_neg h₇]

/-- The digits of a control stand for it. -/
theorem codeUnit?_of_control {n : Nat} (h : n < 0x20) :
    codeUnit? '0' '0' (n / 16).digitChar (n % 16).digitChar = some (.codeUnit n) := by
  have hzero : hexValue? '0' = some 0 := by decide
  have hhigh := hexValue?_digitChar (n / 16) (by omega)
  have hlow := hexValue?_digitChar (n % 16) (by omega)
  have hsum : ((0 * 16 + 0) * 16 + n / 16) * 16 + n % 16 = n := by omega
  simp only [codeUnit?, hzero, hhigh, hlow, Option.bind_eq_bind, Option.bind_some, hsum]
  rfl

theorem joinPieces_codeUnit {n : Nat} (h : n < 0x20) (pieces : List Piece) :
    joinPieces (.codeUnit n :: pieces) = (joinPieces pieces).map (Char.ofNat n :: ·) := by
  have hhigh : isHighSurrogate n = false := by
    rw [isHighSurrogate, decide_eq_false (by omega), Bool.false_and]
  have hlow : isLowSurrogate n = false := by
    rw [isLowSurrogate, decide_eq_false (by omega), Bool.false_and]
  conv_lhs => unfold joinPieces
  rw [hhigh, hlow]
  rfl

/-- **Every character is written as a piece** that stands for it. -/
theorem exists_piece (c : Char) :
    ∃ piece, (∀ rest, readPieces (escape c ++ rest) = addPiece (some piece) (readPieces rest)) ∧
      ∀ pieces, joinPieces (piece :: pieces) = (joinPieces pieces).map (c :: ·) := by
  by_cases hshort : c ∈ shortEscapes
  · simp only [shortEscapes, List.mem_cons, List.not_mem_nil, or_false] at hshort
    -- both functions compute
    rcases hshort with rfl | rfl | rfl | rfl | rfl | rfl | rfl <;>
      exact ⟨.char _, fun _ => rfl, fun _ => rfl⟩
  · rw [escape_of_not_short hshort]
    split
    · next hcontrol =>
      refine ⟨.codeUnit c.toNat, fun rest => ?_, fun pieces => ?_⟩
      · rw [← codeUnit?_of_control hcontrol]
        rfl
      · rw [joinPieces_codeUnit hcontrol, Char.ofNat_toNat]
    · next hcontrol =>
      have hmark : c ≠ '"' := fun hc => hshort (hc ▸ by decide)
      have hslash : c ≠ '\\' := fun hc => hshort (hc ▸ by decide)
      have hplain : plainChar? c = some (.char c) := if_neg (not_or.mpr ⟨hcontrol, hslash⟩)
      refine ⟨.char c, fun rest => ?_, fun pieces => rfl⟩
      rw [List.singleton_append, readPieces, hplain]
      · exact hmark
      · exact fun _ _ _ _ _ hc => absurd hc hslash
      · exact fun _ _ hc => absurd hc hslash

theorem exists_pieces (cs rest : List Char) :
    ∃ pieces, readPieces (cs.flatMap escape ++ '"' :: rest) = some (pieces, rest) ∧
      joinPieces pieces = some cs := by
  induction cs with
  | nil => exact ⟨[], rfl, rfl⟩
  | cons c cs ih =>
    obtain ⟨pieces, hread, hjoin⟩ := ih
    obtain ⟨piece, hpiece, hc⟩ := exists_piece c
    refine ⟨piece :: pieces, ?_, ?_⟩
    · rw [List.flatMap_cons, List.append_assoc, hpiece, hread]
      rfl
    · rw [hc, hjoin]
      rfl

/-- **A string is read back**, whatever its characters. -/
theorem readString_writeString (s : String) (rest : List Char) :
    ∃ body, writeString s ++ rest = '"' :: body ∧ readString body = some (some s, rest) := by
  obtain ⟨pieces, hread, hjoin⟩ := exists_pieces s.toList rest
  refine ⟨s.toList.flatMap escape ++ '"' :: rest, ?_, ?_⟩
  · rw [writeString, List.append_assoc, List.singleton_append, List.cons_append]
  · rw [readString, hread, Option.bind_eq_bind, Option.bind_some]
    dsimp only
    rw [hjoin, Option.map_some, String.ofList_toList]
    rfl

/-! ### Numbers -/

/-- What may follow a number: nothing that could continue it. -/
def EndsNumber (rest : List Char) : Prop :=
  ∀ c, rest.head? = some c → c.isDigit = false ∧ c ≠ '.' ∧ c ≠ 'e' ∧ c ≠ 'E'

theorem digits_append {ds rest : List Char} (hds : ∀ c ∈ ds, c.isDigit = true)
    (hrest : EndsNumber rest) : digits (ds ++ rest) = (ds, rest) := by
  have htake : rest.takeWhile Char.isDigit = [] := by
    cases rest with
    | nil => rfl
    | cons c rest => rw [List.takeWhile_cons, (hrest c rfl).1]; rfl
  have hdrop : rest.dropWhile Char.isDigit = rest := by
    cases rest with
    | nil => rfl
    | cons c rest => rw [List.dropWhile_cons, (hrest c rfl).1]; rfl
  rw [digits, List.takeWhile_append_of_pos hds, List.dropWhile_append_of_pos hds, htake, hdrop,
    List.append_nil]

theorem isDigit_of_mem_toDigits {n : Nat} : ∀ c ∈ Nat.toDigits 10 n, c.isDigit = true :=
  fun _ hc => Nat.isDigit_of_mem_toDigits (by decide) (by decide) hc

/-- Only zero is written with a zero in front. -/
theorem head?_toDigits {n : Nat} (h : 0 < n) : (Nat.toDigits 10 n).head? ≠ some '0' := by
  induction n using Nat.strong_induction_on with
  | _ n ih =>
    by_cases hn : n < 10
    · rw [Nat.toDigits_of_lt_base hn]
      interval_cases n <;> decide
    · have hdiv : 0 < n / 10 := Nat.div_pos (Nat.le_of_not_lt hn) (by decide)
      rw [Nat.toDigits_of_base_le (by decide) (Nat.le_of_not_lt hn),
        List.head?_append_of_ne_nil _ Nat.toDigits_ne_nil]
      exact ih (n / 10) (by omega) hdiv

theorem readWhole_toDigits (n : Nat) {rest : List Char} (hrest : EndsNumber rest) :
    readWhole (Nat.toDigits 10 n ++ rest) = some (Nat.toDigits 10 n, rest) := by
  rw [readWhole, digits_append isDigit_of_mem_toDigits hrest]
  by_cases hn : n = 0
  · rw [hn]
    rfl
  · -- neither are there no digits, nor is the first one a superfluous zero
    have hhead := head?_toDigits (Nat.pos_of_ne_zero hn)
    split
    · next h => exact absurd (Prod.mk.inj h).1 Nat.toDigits_ne_nil
    · next h =>
      rw [(Prod.mk.inj h).1] at hhead
      exact absurd rfl hhead
    · next h => rw [(Prod.mk.inj h).1, (Prod.mk.inj h).2]

/-- **A number is read back.** -/
theorem readUnsigned_toDigits (n : Nat) {rest : List Char} (hrest : EndsNumber rest) :
    readUnsigned (Nat.toDigits 10 n ++ rest) = some (.number n, rest) := by
  have hfraction : readFraction rest = some (false, rest) := by
    unfold readFraction
    split
    · exact absurd rfl (hrest _ rfl).2.1
    · rfl
  have hexponent : readExponent rest = some (false, rest) := by
    cases rest with
    | nil => rfl
    | cons c rest =>
      obtain ⟨-, -, he, hE⟩ := hrest c rfl
      rw [readExponent, if_neg (not_or.mpr ⟨he, hE⟩)]
  rw [readUnsigned, readWhole_toDigits n hrest, Option.bind_eq_bind, Option.bind_some]
  dsimp only
  rw [hfraction, Option.bind_eq_bind, Option.bind_some]
  dsimp only
  rw [hexponent, Option.bind_some]
  dsimp only
  rw [if_neg (by decide), Nat.ofDigitChars_ten_toDigits]
  rfl

end AutomatonKit.Json
