import Mathlib
import AutomatonKit.Alphabet

/-!
# Columns of an alphabet

The symbols of an alphabet are distinct, so a symbol and its column determine each other
(`indexOf?_eq_some_iff`).  `insert` keeps the columns that exist and gives the next one to a new
symbol (`indexOf?_insert`), and inserting a list of symbols adds the new ones in the order of their
first occurrences (`symbols_foldl_insert`).  In particular the alphabet of the symbols of an
alphabet is that alphabet (`ofList_symbols`).

`sameSymbols` counts the symbols and looks for those of one alphabet in the other; as no symbol
occurs twice, this compares the sets (`sameSymbols_iff`).
-/

namespace AutomatonKit.Alphabet

theorem ext_symbols {a b : Alphabet} (h : a.symbols = b.symbols) : a = b := by
  cases a
  cases b
  simpa using h

theorem contains_iff {a : Alphabet} {c : Char} : a.contains c = true ↔ c ∈ a.symbols :=
  List.contains_iff_mem

/-- A symbol and its column determine each other. -/
theorem indexOf?_eq_some_iff (a : Alphabet) {c : Char} {i : Nat} :
    a.indexOf? c = some i ↔ a.symbols[i]? = some c := by
  constructor
  · intro h
    obtain ⟨hi, hc, -⟩ := List.idxOf?_eq_some_iff.mp h
    rw [List.getElem?_eq_getElem hi, hc]
  · intro h
    obtain ⟨hi, hc⟩ := List.getElem?_eq_some_iff.mp h
    refine List.idxOf?_eq_some_iff.mpr ⟨hi, hc, fun j hj hcj => ?_⟩
    have hij : i = j := a.nodup.getElem_inj_iff.mp (hc.trans hcj.symm)
    omega

theorem isSome_indexOf?_iff {a : Alphabet} {c : Char} :
    (a.indexOf? c).isSome = true ↔ c ∈ a.symbols :=
  List.isSome_idxOf?

theorem column_of_indexOf? {a : Alphabet} {c : Char} {i : Nat} (h : a.indexOf? c = some i) :
    a.column c = i := by
  obtain ⟨hlt, hget, -⟩ := List.idxOf?_eq_some_iff.mp h
  rw [← hget]
  exact a.nodup.idxOf_getElem i hlt

/-! ### Inserting a symbol -/

theorem insert_of_mem {a : Alphabet} {c : Char} (h : c ∈ a.symbols) : a.insert c = a := by
  rw [insert, dif_pos h]

theorem symbols_insert_of_not_mem {a : Alphabet} {c : Char} (h : c ∉ a.symbols) :
    (a.insert c).symbols = a.symbols ++ [c] := by
  rw [insert, dif_neg h]

theorem mem_insert {a : Alphabet} {c x : Char} :
    x ∈ (a.insert c).symbols ↔ x = c ∨ x ∈ a.symbols := by
  by_cases h : c ∈ a.symbols
  · rw [insert_of_mem h]
    exact ⟨Or.inr, fun hx => hx.elim (fun hc => hc ▸ h) id⟩
  · rw [symbols_insert_of_not_mem h, List.mem_append, List.mem_singleton, or_comm]

theorem symbols_prefix_insert (a : Alphabet) (c : Char) : a.symbols <+: (a.insert c).symbols := by
  by_cases h : c ∈ a.symbols
  · rw [insert_of_mem h]
  · rw [symbols_insert_of_not_mem h]
    exact List.prefix_append _ _

theorem size_le_size_insert (a : Alphabet) (c : Char) : a.size ≤ (a.insert c).size :=
  (symbols_prefix_insert a c).length_le

/-- The column that a symbol has, or gets, is a column of the extended alphabet. -/
theorem symbols_insert_getElem?_column (a : Alphabet) (c : Char) :
    (a.insert c).symbols[a.column c]? = some c := by
  unfold column
  by_cases h : c ∈ a.symbols
  · rw [insert_of_mem h, List.getElem?_eq_getElem (List.idxOf_lt_length_of_mem h),
      List.getElem_idxOf]
  · rw [symbols_insert_of_not_mem h, List.idxOf_of_notMem h, List.getElem?_append_right le_rfl,
      Nat.sub_self, List.getElem?_cons_zero]

theorem column_lt_size_insert (a : Alphabet) (c : Char) : a.column c < (a.insert c).size :=
  (List.getElem?_eq_some_iff.mp (symbols_insert_getElem?_column a c)).1

/-- **Columns after an insertion**: the inserted symbol has its column, every other symbol keeps
the one it had. -/
theorem indexOf?_insert (a : Alphabet) (c x : Char) :
    (a.insert c).indexOf? x = if x = c then some (a.column c) else a.indexOf? x := by
  split
  · next h =>
    rw [h, indexOf?_eq_some_iff]
    exact symbols_insert_getElem?_column a c
  · next h =>
    by_cases hc : c ∈ a.symbols
    · rw [insert_of_mem hc]
    · refine Option.ext fun i => ?_
      rw [indexOf?_eq_some_iff, indexOf?_eq_some_iff, symbols_insert_of_not_mem hc,
        List.getElem?_append]
      split
      · rfl
      · next hi =>
        rw [List.getElem?_eq_none (by omega : a.symbols.length ≤ i), List.getElem?_singleton]
        simp [Ne.symm h]

/-- A symbol that has a column keeps it. -/
theorem indexOf?_insert_of_some {a : Alphabet} {x : Char} {i : Nat} (h : a.indexOf? x = some i)
    (c : Char) : (a.insert c).indexOf? x = some i := by
  rw [indexOf?_insert]
  split
  · next hx => rw [← hx, column_of_indexOf? h]
  · exact h

/-! ### Inserting a list of symbols -/

theorem indexOf?_foldl_insert_of_some {a : Alphabet} {x : Char} {i : Nat}
    (h : a.indexOf? x = some i) (cs : List Char) : (cs.foldl insert a).indexOf? x = some i := by
  induction cs generalizing a with
  | nil => exact h
  | cons c cs ih => exact ih (indexOf?_insert_of_some h c)

/-- Inserting a list of symbols adds those that are new, in the order of their first occurrences. -/
theorem symbols_foldl_insert (a : Alphabet) (cs : List Char) :
    (cs.foldl insert a).symbols = a.symbols ++ (cs.filter (· ∉ a.symbols)).eraseDups := by
  -- on the list, for every alphabet: what is new depends on the symbols inserted before
  induction cs generalizing a with
  | nil => simp
  | cons c cs ih =>
    rw [List.foldl_cons, ih]
    by_cases h : c ∈ a.symbols
    · rw [insert_of_mem h, List.filter_cons_of_neg (by simpa using h)]
    · rw [symbols_insert_of_not_mem h, List.filter_cons_of_pos (by simpa using h),
        List.eraseDups_cons, List.filter_filter, List.append_assoc, List.singleton_append]
      congr 3
      refine List.filter_congr fun x _ => ?_
      by_cases hx : x = c <;> simp [hx]

theorem mem_foldl_insert {a : Alphabet} {cs : List Char} {x : Char} :
    x ∈ (cs.foldl insert a).symbols ↔ x ∈ a.symbols ∨ x ∈ cs := by
  induction cs generalizing a with
  | nil => simp
  | cons c cs ih => rw [List.foldl_cons, ih, mem_insert, List.mem_cons, or_assoc, or_left_comm]

/-- Nothing happens when all symbols are present. -/
theorem foldl_insert_of_forall_mem {a : Alphabet} {cs : List Char} (h : ∀ c ∈ cs, c ∈ a.symbols) :
    cs.foldl insert a = a := by
  induction cs with
  | nil => rfl
  | cons c cs ih =>
    obtain ⟨hc, hcs⟩ := List.forall_mem_cons.mp h
    rw [List.foldl_cons, insert_of_mem hc, ih hcs]

/-- The symbols of `ofList` are the first occurrences of the list. -/
theorem symbols_ofList (cs : List Char) : (ofList cs).symbols = cs.eraseDups := by
  have h : (ofList cs).symbols = [] ++ (cs.filter (· ∉ [])).eraseDups :=
    symbols_foldl_insert empty cs
  simpa using h

theorem eraseDups_of_nodup {cs : List Char} (h : cs.Nodup) : cs.eraseDups = cs := by
  induction cs with
  | nil => rfl
  | cons c cs ih =>
    obtain ⟨hc, hcs⟩ := List.nodup_cons.mp h
    rw [List.eraseDups_cons, List.filter_eq_self.mpr, ih hcs]
    intro x hx
    have hne : x ≠ c := fun hxc => hc (hxc ▸ hx)
    simpa using hne

/-- An alphabet is the alphabet of its own symbols. -/
theorem ofList_symbols (a : Alphabet) : ofList a.symbols = a :=
  ext_symbols (by rw [symbols_ofList, eraseDups_of_nodup a.nodup])

/-! ### Comparing alphabets -/

/-- **Alphabets are compared as sets.**  Where one alphabet holds all symbols of the other and not
more symbols, there is no room for another one. -/
theorem sameSymbols_iff {a b : Alphabet} :
    a.sameSymbols b = true ↔ ∀ c, c ∈ a.symbols ↔ c ∈ b.symbols := by
  rw [sameSymbols, Bool.and_eq_true, beq_iff_eq, List.all_eq_true]
  simp only [contains_iff]
  constructor
  · rintro ⟨hsize, hsubset⟩ c
    have hperm : a.symbols.Perm b.symbols :=
      (List.subperm_of_subset a.nodup hsubset).perm_of_length_le (Nat.le_of_eq hsize.symm)
    exact hperm.mem_iff
  · intro h
    have hperm : a.symbols.Perm b.symbols := (List.perm_ext_iff_of_nodup a.nodup b.nodup).mpr h
    exact ⟨hperm.length_eq, fun c hc => (h c).mp hc⟩

end AutomatonKit.Alphabet
