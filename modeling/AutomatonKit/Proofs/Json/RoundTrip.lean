import Mathlib
import AutomatonKit.Proofs.Json.Scalars

/-!
# A written value is read back

`read_write_eq_some`: a value without foreign parts is read back from its written form, in any
layout whose gaps are gaps.

The induction is on the value, and within an array or an object on the items that are left.  It
carries the text that follows, which must not continue a number, and an amount of nested calls of
twice the length of what is written.
-/

namespace AutomatonKit.Json

/-- A value that has no foreign part. -/
inductive IsNative : Value → Prop
  | null : IsNative .null
  | bool (b : Bool) : IsNative (.bool b)
  | number (n : Nat) : IsNative (.number n)
  | string (s : String) : IsNative (.string s)
  | array {items : List Value} (h : ∀ item ∈ items, IsNative item) : IsNative (.array items)
  | object {members : List (String × Value)} (h : ∀ member ∈ members, IsNative member.2) :
    IsNative (.object members)

/-- A layout that puts nothing but gaps between the parts of a value. -/
structure Layout.HasGaps (layout : Layout) : Prop where
  newLine : ∀ depth, ∀ c ∈ layout.newLine depth, isGap c = true
  afterColon : ∀ c ∈ layout.afterColon, isGap c = true

theorem Layout.hasGaps_compact : Layout.compact.HasGaps where
  newLine _ _ hc := absurd hc List.not_mem_nil
  afterColon _ hc := absurd hc List.not_mem_nil

theorem Layout.hasGaps_indented : Layout.indented.HasGaps where
  newLine depth c hc := by
    rcases List.mem_cons.mp hc with rfl | hc
    · rfl
    · rw [List.eq_of_mem_replicate hc]
      rfl
  afterColon c hc := by
    rw [List.mem_singleton.mp hc]
    rfl

variable {layout : Layout} {depth : Nat} {rest : List Char}

/-! ### Gaps -/

theorem skipGap_append {gap : List Char} (h : ∀ c ∈ gap, isGap c = true) (s : List Char) :
    skipGap (gap ++ s) = skipGap s :=
  List.dropWhile_append_of_pos h

theorem skipGap_cons {c : Char} (h : isGap c = false) (s : List Char) :
    skipGap (c :: s) = c :: s := by
  rw [skipGap, List.dropWhile_cons, h]
  rfl

theorem isGap_of_isDigit {c : Char} (h : c.isDigit = true) : isGap c = false := by
  have hne : ∀ x : Char, x.isDigit = false → (c == x) = false := by
    intro x hx
    refine beq_false_of_ne fun hcx => ?_
    rw [hcx, hx] at h
    exact Bool.false_ne_true h
  rw [isGap, hne ' ' rfl, hne '\t' rfl, hne '\n' rfl, hne '\r' rfl]
  rfl

theorem readValue_append {gap : List Char} (h : ∀ c ∈ gap, isGap c = true) (fuel : Nat)
    (s : List Char) : readValue fuel (gap ++ s) = readValue fuel s := by
  cases fuel with
  | zero => rw [readValue, readValue]
  | succ fuel => rw [readValue, readValue, skipGap_append h]

/-! ### What follows an item -/

theorem endsNumber_nil : EndsNumber [] := by
  intro c hc
  exact absurd hc (by simp)

theorem endsNumber_append {gap : List Char} (h : ∀ c ∈ gap, isGap c = true) {s : List Char}
    (hs : EndsNumber s) : EndsNumber (gap ++ s) := by
  cases gap with
  | nil => exact hs
  | cons c gap =>
    intro x hx
    have hc := h c List.mem_cons_self
    rw [← Option.some.inj hx]
    simp only [isGap, Bool.or_eq_true, beq_iff_eq] at hc
    rcases hc with ((rfl | rfl) | rfl) | rfl <;> decide

theorem endsNumber_writeItems (hl : layout.HasGaps) (items : List Value) :
    EndsNumber (writeItems layout depth items ++ rest) := by
  cases items with
  | nil =>
    rw [writeItems, List.append_assoc]
    refine endsNumber_append (hl.newLine depth) fun c hc => ?_
    rw [← Option.some.inj hc]
    decide
  | cons item items =>
    intro c hc
    rw [← Option.some.inj hc]
    decide

theorem endsNumber_writeMembers (hl : layout.HasGaps) (members : List (String × Value)) :
    EndsNumber (writeMembers layout depth members ++ rest) := by
  cases members with
  | nil =>
    rw [writeMembers, List.append_assoc]
    refine endsNumber_append (hl.newLine depth) fun c hc => ?_
    rw [← Option.some.inj hc]
    decide
  | cons member members =>
    intro c hc
    rw [← Option.some.inj hc]
    decide

/-! ### Values -/

/-- A value is read back wherever it stands. -/
def ReadsBack (layout : Layout) (v : Value) : Prop :=
  ∀ depth fuel rest, EndsNumber rest → 2 * (writeAt layout depth v).length ≤ fuel →
    readValue fuel (writeAt layout depth v ++ rest) = some (v, rest)

theorem readsBack_number (n : Nat) : ReadsBack layout (.number n) := by
  intro depth fuel rest hrest hfuel
  have hne : Nat.toDigits 10 n ≠ [] := Nat.toDigits_ne_nil
  obtain ⟨c, ds, hds⟩ := List.exists_cons_of_ne_nil hne
  -- a value that begins with a digit is none of the other kinds
  have hc : c.isDigit = true := isDigit_of_mem_toDigits c (hds ▸ List.mem_cons_self)
  have hother : ∀ x : Char, x.isDigit = false → c ≠ x := by
    rintro x hx rfl
    rw [hx] at hc
    exact Bool.false_ne_true hc
  have hread := readUnsigned_toDigits n hrest
  rw [writeAt, hds, List.length_cons] at hfuel
  obtain ⟨fuel, rfl⟩ : ∃ k, fuel = k + 1 := ⟨fuel - 1, by omega⟩
  rw [hds, List.cons_append] at hread
  rw [writeAt, hds, List.cons_append, readValue, skipGap_cons (isGap_of_isDigit hc)]
  dsimp only
  rw [if_neg (hother '[' rfl), if_neg (hother '\x7b' rfl), if_neg (hother '"' rfl),
    if_neg (hother 'n' rfl), if_neg (hother 't' rfl), if_neg (hother 'f' rfl), readNumber]
  · exact hread
  · exact fun _ h => absurd (List.cons.inj h).1 (hother '-' rfl)

theorem readsBack_string (s : String) : ReadsBack layout (.string s) := by
  intro depth fuel rest hrest hfuel
  obtain ⟨body, hbody, hread⟩ := readString_writeString s rest
  rw [writeAt, writeString, List.cons_append, List.length_cons] at hfuel
  obtain ⟨fuel, rfl⟩ : ∃ k, fuel = k + 1 := ⟨fuel - 1, by omega⟩
  rw [writeAt, hbody]
  show (readString body).map _ = _
  rw [hread]
  rfl

theorem readItems_writeItems (hl : layout.HasGaps) {items : List Value}
    (h : ∀ item ∈ items, ReadsBack layout item) (fuel depth : Nat) (rest : List Char)
    (hfuel : 2 * (writeItems layout depth items).length ≤ fuel) :
    readItems fuel (writeItems layout depth items ++ rest) = some (items, rest) := by
  induction items generalizing fuel with
  | nil =>
    rw [writeItems, List.length_append, List.length_singleton] at hfuel
    obtain ⟨fuel, rfl⟩ : ∃ k, fuel = k + 1 := ⟨fuel - 1, by omega⟩
    rw [writeItems, List.append_assoc, readItems, skipGap_append (hl.newLine depth)]
    rfl
  | cons item items ih =>
    -- the comma pays for the call that reads the item and the one that reads the rest
    obtain ⟨hitem, hitems⟩ := List.forall_mem_cons.mp h
    simp only [writeItems, List.cons_append, List.length_cons, List.length_append] at hfuel
    obtain ⟨fuel, rfl⟩ : ∃ k, fuel = k + 1 := ⟨fuel - 1, by omega⟩
    have hfirst := hitem (depth + 1) fuel (writeItems layout depth items ++ rest)
      (endsNumber_writeItems hl items) (by omega)
    have hothers := ih hitems fuel (by omega)
    rw [writeItems, List.append_assoc, List.append_assoc, List.cons_append, readItems,
      skipGap_cons (by decide)]
    show (readValue fuel (layout.newLine (depth + 1) ++ _) >>= _) = _
    rw [readValue_append (hl.newLine _), hfirst, Option.bind_eq_bind, Option.bind_some]
    dsimp only
    rw [hothers]
    rfl

/-- No written value looks like the end of an array. -/
theorem exists_writeAt_eq_cons (layout : Layout) (depth : Nat) (v : Value) :
    ∃ c s, writeAt layout depth v = c :: s ∧ isGap c = false ∧ c ≠ ']' := by
  cases v with
  | null => exact ⟨_, _, rfl, by decide, by decide⟩
  | bool b => cases b <;> exact ⟨_, _, rfl, by decide, by decide⟩
  | number n =>
    obtain ⟨c, ds, hds⟩ := List.exists_cons_of_ne_nil (Nat.toDigits_ne_nil (n := n) (b := 10))
    have hc : c.isDigit = true := isDigit_of_mem_toDigits c (hds ▸ List.mem_cons_self)
    refine ⟨c, ds, hds, isGap_of_isDigit hc, ?_⟩
    rintro rfl
    exact absurd hc (by decide)
  | string s => exact ⟨_, _, rfl, by decide, by decide⟩
  | array items => cases items <;> exact ⟨_, _, rfl, by decide, by decide⟩
  | object members =>
    cases members with
    | nil => exact ⟨_, _, rfl, by decide, by decide⟩
    | cons member members => exact ⟨_, _, rfl, by decide, by decide⟩
  | foreign => exact ⟨_, _, rfl, by decide, by decide⟩

theorem readsBack_array (hl : layout.HasGaps) {items : List Value}
    (h : ∀ item ∈ items, ReadsBack layout item) : ReadsBack layout (.array items) := by
  intro depth fuel rest hrest hfuel
  obtain ⟨fuel, rfl⟩ : ∃ k, fuel = k + 2 :=
    ⟨fuel - 2, by cases items <;> simp [writeAt] at hfuel <;> omega⟩
  cases items with
  | nil => rfl
  | cons item items =>
    obtain ⟨hitem, hitems⟩ := List.forall_mem_cons.mp h
    simp only [writeAt, List.cons_append, List.length_cons, List.length_append] at hfuel
    have hfirst := hitem (depth + 1) fuel (writeItems layout depth items ++ rest)
      (endsNumber_writeItems hl items) (by omega)
    have hothers := readItems_writeItems hl hitems fuel depth rest (by omega)
    -- the array does not end at once, because no item begins with a bracket that closes it
    obtain ⟨c, s, hc, hgap, hend⟩ := exists_writeAt_eq_cons layout (depth + 1) item
    rw [writeAt, List.append_assoc, List.append_assoc, List.cons_append]
    show readArray (fuel + 1) (layout.newLine (depth + 1) ++ _) = _
    rw [readArray, skipGap_append (hl.newLine _), hc, List.cons_append, skipGap_cons hgap]
    rw [hc, List.cons_append] at hfirst
    split
    · next h => exact absurd (List.cons.inj h).1 hend
    · rw [hfirst, Option.bind_eq_bind, Option.bind_some]
      dsimp only
      rw [hothers]
      rfl

/-! ### Objects -/

theorem readKey_writeString (key : String) (rest : List Char) :
    ∃ body, writeString key ++ ':' :: rest = '"' :: body ∧
      readKey body = some (some key, rest) := by
  obtain ⟨body, hbody, hread⟩ := readString_writeString key (':' :: rest)
  refine ⟨body, hbody, ?_⟩
  rw [readKey, hread, Option.bind_eq_bind, Option.bind_some]
  rfl

/-- A member is read back up to what follows its value. -/
theorem exists_member (hl : layout.HasGaps) (key : String) {value : Value}
    (h : ReadsBack layout value) (depth fuel : Nat) (hrest : EndsNumber rest)
    (hfuel : 2 * (writeAt layout depth value).length ≤ fuel) :
    ∃ body s,
      writeString key ++ ':' :: (layout.afterColon ++ (writeAt layout depth value ++ rest)) =
        '"' :: body ∧
      readKey body = some (some key, s) ∧ readValue fuel s = some (value, rest) := by
  obtain ⟨body, hbody, hkey⟩ :=
    readKey_writeString key (layout.afterColon ++ (writeAt layout depth value ++ rest))
  refine ⟨body, _, hbody, hkey, ?_⟩
  rw [readValue_append hl.afterColon]
  exact h depth fuel rest hrest hfuel

theorem readMembers_writeMembers (hl : layout.HasGaps) {members : List (String × Value)}
    (h : ∀ member ∈ members, ReadsBack layout member.2) (fuel depth : Nat) (rest : List Char)
    (hfuel : 2 * (writeMembers layout depth members).length ≤ fuel) :
    readMembers fuel (writeMembers layout depth members ++ rest) = some (some members, rest) := by
  induction members generalizing fuel with
  | nil =>
    rw [writeMembers, List.length_append, List.length_singleton] at hfuel
    obtain ⟨fuel, rfl⟩ : ∃ k, fuel = k + 1 := ⟨fuel - 1, by omega⟩
    rw [writeMembers, List.append_assoc, readMembers, skipGap_append (hl.newLine depth)]
    rfl
  | cons member members ih =>
    obtain ⟨key, value⟩ := member
    obtain ⟨(hvalue : ReadsBack layout value), hmembers⟩ := List.forall_mem_cons.mp h
    simp only [writeMembers, List.cons_append, List.length_cons, List.length_append] at hfuel
    obtain ⟨fuel, rfl⟩ : ∃ k, fuel = k + 1 := ⟨fuel - 1, by omega⟩
    have hends : EndsNumber (writeMembers layout depth members ++ rest) :=
      endsNumber_writeMembers hl members
    obtain ⟨body, s, hbody, hkey, hread⟩ :=
      exists_member hl key hvalue (depth + 1) fuel hends (by omega)
    have hothers := ih hmembers fuel (by omega)
    have hcomma : skipGap (',' :: (layout.newLine (depth + 1) ++ '"' :: body)) =
        ',' :: (layout.newLine (depth + 1) ++ '"' :: body) := skipGap_cons (by decide) _
    have hmark : skipGap (layout.newLine (depth + 1) ++ '"' :: body) = '"' :: body := by
      rw [skipGap_append (hl.newLine _), skipGap_cons (by decide)]
    simp only [writeMembers, List.append_assoc, List.cons_append]
    simp only [hbody, readMembers, hcomma, hmark]
    rw [hkey, Option.bind_eq_bind, Option.bind_some]
    dsimp only
    rw [hread, Option.bind_eq_bind, Option.bind_some]
    dsimp only
    rw [hothers]
    rfl

theorem readsBack_object (hl : layout.HasGaps) {members : List (String × Value)}
    (h : ∀ member ∈ members, ReadsBack layout member.2) : ReadsBack layout (.object members) := by
  intro depth fuel rest hrest hfuel
  obtain ⟨fuel, rfl⟩ : ∃ k, fuel = k + 2 :=
    ⟨fuel - 2, by cases members <;> simp [writeAt] at hfuel <;> omega⟩
  cases members with
  | nil => rfl
  | cons member members =>
    obtain ⟨key, value⟩ := member
    obtain ⟨(hvalue : ReadsBack layout value), hmembers⟩ := List.forall_mem_cons.mp h
    simp only [writeAt, List.cons_append, List.length_cons, List.length_append] at hfuel
    have hends : EndsNumber (writeMembers layout depth members ++ rest) :=
      endsNumber_writeMembers hl members
    obtain ⟨body, s, hbody, hkey, hread⟩ :=
      exists_member hl key hvalue (depth + 1) fuel hends (by omega)
    have hothers := readMembers_writeMembers hl hmembers fuel depth rest (by omega)
    simp only [writeAt, List.append_assoc, List.cons_append]
    rw [hbody]
    show readObject (fuel + 1) (layout.newLine (depth + 1) ++ '"' :: body) = _
    rw [readObject, skipGap_append (hl.newLine _), skipGap_cons (by decide)]
    show (readKey body >>= _) = _
    rw [hkey, Option.bind_eq_bind, Option.bind_some]
    dsimp only
    rw [hread, Option.bind_eq_bind, Option.bind_some]
    dsimp only
    rw [hothers]
    rfl

/-- **A value is read back.** -/
theorem readsBack (hl : layout.HasGaps) {v : Value} (h : IsNative v) : ReadsBack layout v := by
  induction h with
  | null =>
    intro depth fuel rest _ hfuel
    obtain ⟨fuel, rfl⟩ : ∃ k, fuel = k + 1 := ⟨fuel - 1, by simp [writeAt] at hfuel; omega⟩
    rfl
  | bool b =>
    intro depth fuel rest _ hfuel
    obtain ⟨fuel, rfl⟩ : ∃ k, fuel = k + 1 :=
      ⟨fuel - 1, by cases b <;> simp [writeAt] at hfuel <;> omega⟩
    cases b <;> rfl
  | number n => exact readsBack_number n
  | string s => exact readsBack_string s
  | array _ ih => exact readsBack_array hl ih
  | object _ ih => exact readsBack_object hl ih

theorem readChars_writeAt (hl : layout.HasGaps) {v : Value} (h : IsNative v) :
    readChars (writeAt layout 0 v) = some v := by
  -- the reader grants itself one nested call more than it needs
  have hread := readsBack hl h 0 (2 * (writeAt layout 0 v).length + 1) [] endsNumber_nil
    (Nat.le_succ _)
  rw [List.append_nil] at hread
  rw [readChars, hread]
  rfl

/-- **The text of a value is read back.** -/
theorem read_write_eq_some (hl : layout.HasGaps) {v : Value} (h : IsNative v) :
    read (write layout v) = some v := by
  rw [read, write, String.toList_ofList, readChars_writeAt hl h]

end AutomatonKit.Json
