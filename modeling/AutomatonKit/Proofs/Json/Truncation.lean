import Mathlib
import AutomatonKit.Proofs.Json.RoundTrip
import AutomatonKit.Proofs.Text.Split
import AutomatonKit.Proofs.Truncation

/-!
# The JSON readers look no further than they have read

What a reader has read stays the same when the text goes on and more nested calls are allowed.
Strings, keys, literals, arrays and objects have an end of their own (`Stable`, and `Continues` for
the readers that call each other).  A number has none: it continues the same way only if something
that does not belong to it was seen, so that the rest is not empty.

This is carried through the nested calls by `ReadersContinue`, with one lemma for each reader.  An
item or a member is followed by a comma or a closing bracket, so the exception for numbers is never
met inside of an array or an object.  Hence no part of an object from the left is read, unless it is
all of it (`readChars_eq_none`).
-/

namespace AutomatonKit.Json

variable {fuel fuel' : Nat}

/-! ### Strings -/

theorem exists_of_addPiece {piece : Option Piece} {tail : Option (List Piece × List Char)}
    {pieces : List Piece} {rest : List Char} (h : addPiece piece tail = some (pieces, rest)) :
    ∃ p ps, piece = some p ∧ tail = some (ps, rest) ∧ p :: ps = pieces := by
  obtain ⟨p, hp, h⟩ := Option.bind_eq_some_iff.mp h
  obtain ⟨⟨ps, rest'⟩, hps, h⟩ := Option.bind_eq_some_iff.mp h
  cases h
  exact ⟨p, ps, hp, hps, rfl⟩

theorem stable_pieces : Stable readPieces := by
  intro s pieces rest hread _ more
  -- a backslash or a `u` behind one that is cut off is no piece, so the cases stay the same
  induction s using readPieces.induct generalizing pieces with
  | case1 => cases hread
  | case2 tail => cases hread; rfl
  | case3 a b c d tail ih =>
    obtain ⟨p, ps, hp, hps, rfl⟩ := exists_of_addPiece hread
    show addPiece (codeUnit? a b c d) (readPieces (tail ++ more)) = _
    rw [hp, ih ps hps]
    rfl
  | case4 c tail hne ih =>
    rw [readPieces] at hread
    · obtain ⟨p, ps, hp, hps, rfl⟩ := exists_of_addPiece hread
      have hu : c ≠ 'u' := by
        rintro rfl
        cases hp
      rw [List.cons_append, List.cons_append, readPieces, hp, ih ps hps]
      · rfl
      · intro a b c d rest h
        exact absurd h hu
    · exact hne
  | case5 c tail hmark hunit hshort ih =>
    rw [readPieces] at hread
    · obtain ⟨p, ps, hp, hps, rfl⟩ := exists_of_addPiece hread
      have hslash : c ≠ '\\' := by
        rintro rfl
        cases hp
      rw [List.cons_append, readPieces, hp, ih ps hps]
      · rfl
      · exact hmark
      · exact fun _ _ _ _ _ hc => absurd hc hslash
      · exact fun _ _ hc => absurd hc hslash
    · exact hmark
    · exact hunit
    · exact hshort

theorem stable_string : Stable readString :=
  stable_pieces.bind fun _ => Stable.pure _

/-! ### Gaps and keys -/

theorem skipGap_eq_cons {s tail : List Char} {c : Char} (h : skipGap s = c :: tail)
    (more : List Char) : skipGap (s ++ more) = c :: (tail ++ more) := by
  unfold skipGap at h ⊢
  rw [List.dropWhile_append, h]
  rfl

theorem stable_key : Stable readKey := by
  refine stable_string.bind fun key => ?_
  intro s x rest hread _ more
  dsimp only at hread ⊢
  split at hread
  · next tail htail =>
    rw [skipGap_eq_cons htail]
    cases hread
    rfl
  · cases hread

theorem stable_literal (ending : List Char) (v : Value) : Stable (readLiteral ending v) := by
  intro s x rest hread _ more
  obtain ⟨tail, htail, hrest⟩ := Option.map_eq_some_iff.mp hread
  cases hrest
  rw [Text.afterLabel_eq_some_iff.mp htail, readLiteral, List.append_assoc, Text.afterLabel_append]
  rfl

/-! ### Numbers -/

/-- Digits end where something else follows. -/
theorem digits_append_of_ne_nil {s ds rest : List Char} (h : digits s = (ds, rest))
    (hrest : rest ≠ []) (more : List Char) : digits (s ++ more) = (ds, rest ++ more) := by
  obtain ⟨hds, hdrop⟩ := Prod.mk.inj h
  have hlen : (s.takeWhile Char.isDigit).length ≠ s.length := by
    intro hlen
    have hparts : (s.takeWhile Char.isDigit ++ s.dropWhile Char.isDigit).length = s.length := by
      rw [List.takeWhile_append_dropWhile]
    have hpos := List.length_pos_of_ne_nil hrest
    rw [List.length_append, hdrop] at hparts
    omega
  have hempty : (s.dropWhile Char.isDigit).isEmpty = false := by
    rw [hdrop, List.isEmpty_eq_false_iff]
    exact hrest
  rw [digits, List.takeWhile_append, if_neg hlen, hds, List.dropWhile_append, hempty, hdrop]
  rfl

theorem continues_whole : Continues (· ≠ []) readWhole readWhole := by
  intro s whole rest hread hrest more
  rw [readWhole] at hread ⊢
  split at hread
  · cases hread
  · cases hread
  · next hempty hzero hdigits =>
    cases hread
    rw [digits_append_of_ne_nil hdigits hrest]
    split
    · next h => exact absurd (Prod.mk.inj h).1 hempty
    · next h => exact absurd (Prod.mk.inj h).1 (hzero _ _)
    · next h => rw [← h]

/-- The digits that have to follow a decimal point or the mark of an exponent. -/
def someDigits (s : List Char) : Option (Bool × List Char) :=
  match digits s with
  | ([], _) => none
  | (_, rest) => some (true, rest)

theorem continues_someDigits : Continues (· ≠ []) someDigits someDigits := by
  intro s x rest hread hrest more
  rw [someDigits] at hread ⊢
  split at hread
  · cases hread
  · next hempty hdigits =>
    cases hread
    rw [digits_append_of_ne_nil hdigits hrest]
    split
    · next h => exact absurd (Prod.mk.inj h).1 hempty
    · next h => rw [(Prod.mk.inj h).2]

theorem continues_fraction : Continues (· ≠ []) readFraction readFraction := by
  intro s x rest hread hrest more
  by_cases hpoint : ∃ tail, s = '.' :: tail
  · obtain ⟨tail, rfl⟩ := hpoint
    exact continues_someDigits tail x rest hread hrest more
  · -- without a point nothing is read, and something else than a point is left
    rw [readFraction] at hread
    · cases hread
      obtain ⟨c, tail, rfl⟩ := List.exists_cons_of_ne_nil hrest
      rw [List.cons_append, readFraction]
      rintro tail' h
      obtain ⟨rfl, -⟩ := List.cons.inj h
      exact hpoint ⟨tail, rfl⟩
    · exact fun tail h => hpoint ⟨tail, h⟩

theorem skipSign_append {s : List Char} (h : s ≠ []) (more : List Char) :
    skipSign (s ++ more) = skipSign s ++ more := by
  obtain ⟨c, tail, rfl⟩ := List.exists_cons_of_ne_nil h
  by_cases hplus : c = '+'
  · rw [hplus]
    rfl
  · by_cases hminus : c = '-'
    · rw [hminus]
      rfl
    · have hkeep : ∀ t, skipSign (c :: t) = c :: t := by
        intro t
        rw [skipSign]
        · exact fun _ h => hplus (List.cons.inj h).1
        · exact fun _ h => hminus (List.cons.inj h).1
      rw [List.cons_append, hkeep, hkeep, List.cons_append]

theorem continues_exponent : Continues (· ≠ []) readExponent readExponent := by
  intro s x rest hread hrest more
  cases s with
  | nil =>
    cases hread
    exact absurd rfl hrest
  | cons c tail =>
    rw [readExponent] at hread
    rw [List.cons_append, readExponent]
    split_ifs at hread ⊢
    · have htail : tail ≠ [] := by
        rintro rfl
        cases hread
      rw [skipSign_append htail]
      exact continues_someDigits (skipSign tail) x rest hread hrest more
    · cases hread
      rfl

/-- What is read after the digits of a number, and its fraction and exponent if it has any. -/
def endNumber (n : Nat) (isForeign : Bool) (s : List Char) : Option (Value × List Char) :=
  if isForeign then some (.foreign, s) else some (.number n, s)

theorem continues_endNumber (n : Nat) (isForeign : Bool) :
    Continues (· ≠ []) (endNumber n isForeign) (endNumber n isForeign) := by
  cases isForeign <;> exact continues_pure _ _

theorem eq_nil_of_endNumber_nil {n : Nat} {isForeign : Bool} {v : Value} {rest : List Char}
    (h : endNumber n isForeign [] = some (v, rest)) : rest = [] := by
  cases isForeign <;> cases h <;> rfl

theorem continues_unsigned : Continues (· ≠ []) readUnsigned readUnsigned := by
  -- at the end of the input neither a fraction nor an exponent is found, and nothing is left
  refine continues_whole.bind (fun whole => ?_) ?_
  · refine continues_fraction.bind (fun hasFraction => ?_) ?_
    · refine continues_exponent.bind (fun hasExponent => ?_) ?_
      · exact continues_endNumber (Nat.ofDigitChars 10 whole 0) (hasFraction || hasExponent)
      · rintro hasExponent s v rest hread hrest rfl
        have hend : endNumber (Nat.ofDigitChars 10 whole 0) (hasFraction || hasExponent) [] =
            some (v, rest) := hread
        exact hrest (eq_nil_of_endNumber_nil hend)
    · rintro hasFraction s v rest hread hrest rfl
      have hend : endNumber (Nat.ofDigitChars 10 whole 0) (hasFraction || false) [] =
          some (v, rest) := hread
      exact hrest (eq_nil_of_endNumber_nil hend)
  · rintro whole s v rest hread hrest rfl
    have hend : endNumber (Nat.ofDigitChars 10 whole 0) false [] = some (v, rest) := hread
    exact hrest (eq_nil_of_endNumber_nil hend)

theorem continues_number : Continues (· ≠ []) readNumber readNumber := by
  intro s v rest hread hrest more
  unfold readNumber at hread
  split at hread
  · exact continues_unsigned.map (fun _ => Value.foreign) _ _ _ hread hrest more
  · next hsign =>
    have hwhole := continues_unsigned _ _ _ hread hrest more
    cases s with
    | nil => cases hread
    | cons c tail =>
      rw [List.cons_append] at hwhole ⊢
      rw [readNumber]
      · exact hwhole
      · rintro tail' h
        obtain ⟨rfl, -⟩ := List.cons.inj h
        exact hsign tail rfl

/-! ### Values -/

/-- With more nested calls and more text, the readers read what they have read. -/
structure ReadersContinue (fuel fuel' : Nat) : Prop where
  value : Continues (· ≠ []) (readValue fuel) (readValue fuel')
  array : Continues (fun _ => True) (readArray fuel) (readArray fuel')
  items : Continues (fun _ => True) (readItems fuel) (readItems fuel')
  object : Continues (fun _ => True) (readObject fuel) (readObject fuel')
  members : Continues (fun _ => True) (readMembers fuel) (readMembers fuel')

theorem readValue_nil (fuel : Nat) : readValue fuel [] = none := by
  cases fuel <;> rfl

theorem readItems_nil (fuel : Nat) : readItems fuel [] = none := by
  cases fuel <;> rfl

theorem readMembers_nil (fuel : Nat) : readMembers fuel [] = none := by
  cases fuel <;> rfl

namespace ReadersContinue

variable {α : Type}

theorem zero (fuel' : Nat) : ReadersContinue 0 fuel' where
  value _ _ _ hread := nomatch hread
  array _ _ _ hread := nomatch hread
  items _ _ _ hread := nomatch hread
  object _ _ _ hread := nomatch hread
  members _ _ _ hread := nomatch hread

theorem value_succ (h : ReadersContinue fuel fuel') :
    Continues (· ≠ []) (readValue (fuel + 1)) (readValue (fuel' + 1)) := by
  intro s v rest hread hrest more
  rw [readValue] at hread
  split at hread
  · cases hread
  · next c tail htail =>
    rw [readValue, skipGap_eq_cons htail]
    dsimp only
    split_ifs at hread ⊢
    · exact h.array _ _ _ hread trivial more
    · exact h.object _ _ _ hread trivial more
    · exact stable_string.map (fun s => (s.map Value.string).getD .foreign) _ _ _ hread trivial more
    · exact stable_literal _ _ _ _ _ hread trivial more
    · exact stable_literal _ _ _ _ _ hread trivial more
    · exact stable_literal _ _ _ _ _ hread trivial more
    · exact continues_number _ _ _ hread hrest more

/-- A value and the items after it. -/
theorem itemThenItems (h : ReadersContinue fuel fuel') (f : Value → List Value → α) :
    Continues (fun _ => True)
      (fun s => readValue fuel s >>= fun (item, s) =>
        readItems fuel s >>= fun (items, s) => some (f item items, s))
      (fun s => readValue fuel' s >>= fun (item, s) =>
        readItems fuel' s >>= fun (items, s) => some (f item items, s)) := by
  refine h.value.bind (fun item => ?_) ?_
  · exact h.items.andThen fun items => continues_pure _ _
  · rintro item s y rest hread - rfl
    dsimp only at hread
    rw [readItems_nil] at hread
    cases hread

theorem array_succ (h : ReadersContinue fuel fuel') :
    Continues (fun _ => True) (readArray (fuel + 1)) (readArray (fuel' + 1)) := by
  intro s v rest hread _ more
  rw [readArray] at hread
  split at hread
  · next tail htail =>
    rw [readArray, skipGap_eq_cons htail]
    cases hread
    rfl
  · next hbracket =>
    cases hs : skipGap s with
    | nil =>
      rw [hs, readValue_nil] at hread
      cases hread
    | cons c tail =>
      rw [hs] at hread
      have hmore := h.itemThenItems (fun item items => Value.array (item :: items)) _ _ _
        hread trivial more
      rw [readArray, skipGap_eq_cons hs]
      split
      · next hclose =>
        rw [(List.cons.inj hclose).1] at hs
        exact absurd hs (hbracket tail)
      · exact hmore

theorem items_succ (h : ReadersContinue fuel fuel') :
    Continues (fun _ => True) (readItems (fuel + 1)) (readItems (fuel' + 1)) := by
  intro s v rest hread _ more
  rw [readItems] at hread
  split at hread
  · next tail htail =>
    rw [readItems, skipGap_eq_cons htail]
    cases hread
    rfl
  · next tail htail =>
    rw [readItems, skipGap_eq_cons htail]
    exact h.itemThenItems List.cons _ _ _ hread trivial more
  · cases hread

/-- A member, after the opening mark of its key, and the members after it. -/
theorem memberThenMembers (h : ReadersContinue fuel fuel')
    (f : Option String → Value → Option (List (String × Value)) → α) :
    Continues (fun _ => True)
      (fun s => readKey s >>= fun (key, s) => readValue fuel s >>= fun (value, s) =>
        readMembers fuel s >>= fun (members, s) => some (f key value members, s))
      (fun s => readKey s >>= fun (key, s) => readValue fuel' s >>= fun (value, s) =>
        readMembers fuel' s >>= fun (members, s) => some (f key value members, s)) := by
  refine Continues.andThen stable_key fun key => ?_
  refine h.value.bind (fun value => ?_) ?_
  · exact h.members.andThen fun members => continues_pure _ _
  · rintro value s y rest hread - rfl
    dsimp only at hread
    rw [readMembers_nil] at hread
    cases hread

theorem object_succ (h : ReadersContinue fuel fuel') :
    Continues (fun _ => True) (readObject (fuel + 1)) (readObject (fuel' + 1)) := by
  intro s v rest hread _ more
  rw [readObject] at hread
  split at hread
  · next tail htail =>
    rw [readObject, skipGap_eq_cons htail]
    cases hread
    rfl
  · next tail htail =>
    rw [readObject, skipGap_eq_cons htail]
    exact h.memberThenMembers (fun key value members => objectOf (addMember key value members))
      _ _ _ hread trivial more
  · cases hread

theorem members_succ (h : ReadersContinue fuel fuel') :
    Continues (fun _ => True) (readMembers (fuel + 1)) (readMembers (fuel' + 1)) := by
  intro s v rest hread _ more
  rw [readMembers] at hread
  split at hread
  · next tail htail =>
    rw [readMembers, skipGap_eq_cons htail]
    cases hread
    rfl
  · next tail htail =>
    split at hread
    · next body hbody =>
      simp only [readMembers, skipGap_eq_cons htail, skipGap_eq_cons hbody]
      exact h.memberThenMembers addMember _ _ _ hread trivial more
    · cases hread
  · cases hread

end ReadersContinue

/-- **More nested calls and more text change nothing about what was read.** -/
theorem readersContinue (h : fuel ≤ fuel') : ReadersContinue fuel fuel' := by
  induction fuel generalizing fuel' with
  | zero => exact .zero fuel'
  | succ fuel ih =>
    obtain ⟨fuel', rfl⟩ : ∃ k, fuel' = k + 1 := ⟨fuel' - 1, by omega⟩
    have hcalls : ReadersContinue fuel fuel' := ih (Nat.le_of_succ_le_succ h)
    exact
      { value := hcalls.value_succ
        array := hcalls.array_succ
        items := hcalls.items_succ
        object := hcalls.object_succ
        members := hcalls.members_succ }

/-! ### Objects that are cut off -/

theorem exists_writeAt_object (layout : Layout) (members : List (String × Value)) :
    ∃ body, writeAt layout 0 (.object members) = '\x7b' :: body := by
  cases members with
  | nil => exact ⟨_, rfl⟩
  | cons member members => exact ⟨_, rfl⟩

/-- **Nothing is read from an object that is cut off**, because the reader misses its closing
brace. -/
theorem readChars_eq_none {layout : Layout} (hl : layout.HasGaps)
    {members : List (String × Value)} (h : IsNative (.object members)) {s : List Char}
    (hpre : s <+: writeAt layout 0 (.object members))
    (hne : s ≠ writeAt layout 0 (.object members)) : readChars s = none := by
  obtain ⟨body, hbody⟩ := exists_writeAt_object layout members
  rw [hbody] at hpre hne
  cases s with
  | nil => rfl
  | cons c tail =>
    obtain ⟨rfl, htail⟩ := List.cons_prefix_cons.mp hpre
    have hcut : tail ≠ body := fun heq => hne (by rw [heq])
    have hlen : tail.length ≤ body.length := htail.length_le
    have hwhole : readObject (2 * (body.length + 1)) body = some (.object members, []) := by
      have hread := readsBack hl h 0 (2 * (body.length + 1) + 1) [] endsNumber_nil
        (by rw [hbody, List.length_cons]; exact Nat.le_succ _)
      rw [hbody, List.append_nil] at hread
      exact hread
    have hnone : readObject (2 * (tail.length + 1)) tail = none :=
      (readersContinue (by omega)).object.eq_none hwhole htail hcut
    have hvalue : readValue (2 * ('\x7b' :: tail).length + 1) ('\x7b' :: tail) = none := hnone
    rw [readChars, hvalue]

end AutomatonKit.Json
