import Mathlib
import AutomatonKit.Proofs.Alphabet

/-!
# Alphabets and their index

An alphabet searches its list of symbols for the column of a symbol.  A `SymbolTable` looks it up:
next to the list it has an index from symbols to columns.  Nothing in the type keeps these two in
step, only the insertions do.  The invariant is that a lookup answers what a search would answer
(`Represents`).  One insertion keeps it, as it extends the list and the index by the same column
(`Represents.insert`), and from this it holds after any number of insertions
(`Represents.insertAll`).

`columns_of_insertions` is the main statement.  Whatever symbols are inserted in whatever order,
symbols and columns determine each other, columns are numbered without gaps and stay as they are,
and alphabets are compared as sets, be they read from the list alone or with the help of the index.
-/

namespace AutomatonKit

/-- The symbols of an alphabet by column and, apart from them, the columns by symbol. -/
structure SymbolTable where
  symbols : List Char
  index : Std.HashMap Char Nat

namespace SymbolTable

def empty : SymbolTable :=
  ⟨[], ∅⟩

def size (t : SymbolTable) : Nat :=
  t.symbols.length

def contains (t : SymbolTable) (symbol : Char) : Bool :=
  t.index.contains symbol

def indexOf? (t : SymbolTable) (symbol : Char) : Option Nat :=
  t.index[symbol]?

def symbolAt? (t : SymbolTable) (column : Nat) : Option Char :=
  t.symbols[column]?

/-- Adds a symbol that the index does not know, and answers the column of the symbol. -/
def insert (t : SymbolTable) (symbol : Char) : SymbolTable × Nat :=
  match t.index[symbol]? with
  | some column => (t, column)
  | none => (⟨t.symbols ++ [symbol], t.index.insert symbol t.size⟩, t.size)

def insertAll (t : SymbolTable) (symbols : List Char) : SymbolTable :=
  symbols.foldl (fun t symbol => (t.insert symbol).1) t

def ofList (symbols : List Char) : SymbolTable :=
  empty.insertAll symbols

/-- The table of a list of symbols, extended by others one by one. -/
def extended (collected inserted : List Char) : SymbolTable :=
  (ofList collected).insertAll inserted

def sameSymbols (t u : SymbolTable) : Bool :=
  t.size == u.size && t.symbols.all u.contains

/-- The table has the symbols of the alphabet, and its index knows their columns. -/
structure Represents (t : SymbolTable) (a : Alphabet) : Prop where
  symbols_eq : t.symbols = a.symbols
  indexOf?_eq : ∀ c, t.indexOf? c = a.indexOf? c

namespace Represents

variable {t u : SymbolTable} {a b : Alphabet}

theorem empty : SymbolTable.empty.Represents .empty where
  symbols_eq := rfl
  indexOf?_eq _ := Std.HashMap.getElem?_empty

theorem size_eq (h : t.Represents a) : t.size = a.size :=
  congrArg List.length h.symbols_eq

theorem contains_eq (h : t.Represents a) (c : Char) : t.contains c = a.contains c := by
  have hindex : t.contains c = (t.indexOf? c).isSome := Std.HashMap.contains_eq_isSome_getElem?
  rw [hindex, h.indexOf?_eq, Bool.eq_iff_iff, Alphabet.isSome_indexOf?_iff, Alphabet.contains_iff]

/-- List and index are inverse to each other. -/
theorem symbolAt?_eq_some_iff (h : t.Represents a) (c : Char) (i : Nat) :
    t.symbolAt? i = some c ↔ t.indexOf? c = some i := by
  rw [symbolAt?, h.symbols_eq, h.indexOf?_eq, Alphabet.indexOf?_eq_some_iff]

/-- **An insertion keeps list and index in step**, and answers the column of the symbol. -/
theorem insert (h : t.Represents a) (c : Char) :
    (t.insert c).1.Represents (a.insert c) ∧ (t.insert c).2 = a.column c := by
  have hlookup : t.index[c]? = a.indexOf? c := h.indexOf?_eq c
  unfold SymbolTable.insert
  rw [hlookup]
  cases hc : a.indexOf? c with
  | some i =>
    have hmem : c ∈ a.symbols := Alphabet.isSome_indexOf?_iff.mp (by rw [hc]; rfl)
    rw [Alphabet.insert_of_mem hmem]
    exact ⟨h, (Alphabet.column_of_indexOf? hc).symm⟩
  | none =>
    have hmem : c ∉ a.symbols := by
      rw [← Alphabet.isSome_indexOf?_iff, hc]
      exact Bool.false_ne_true
    have hcolumn : t.size = a.column c := by
      rw [h.size_eq, Alphabet.column, List.idxOf_of_notMem hmem, Alphabet.size]
    refine ⟨⟨?_, fun x => ?_⟩, hcolumn⟩
    · rw [Alphabet.symbols_insert_of_not_mem hmem, h.symbols_eq]
    · rw [Alphabet.indexOf?_insert, ← hcolumn, ← h.indexOf?_eq]
      unfold indexOf?
      rw [Std.HashMap.getElem?_insert]
      simp only [beq_iff_eq, @eq_comm _ x]

theorem insertAll (h : t.Represents a) (cs : List Char) :
    (t.insertAll cs).Represents (cs.foldl Alphabet.insert a) := by
  induction cs generalizing t a with
  | nil => exact h
  | cons c cs ih => exact ih (h.insert c).1

theorem sameSymbols_eq (h : t.Represents a) (h' : u.Represents b) :
    t.sameSymbols u = a.sameSymbols b := by
  rw [sameSymbols, Alphabet.sameSymbols, h.size_eq, h'.size_eq, h.symbols_eq,
    funext h'.contains_eq]

end Represents

end SymbolTable

namespace Alphabet

/-- The symbols are numbered without gaps and repetitions, and no insertion renumbers them. -/
structure Numbered (a : Alphabet) : Prop where
  symbolAt?_eq_some_iff : ∀ c i, a.symbolAt? i = some c ↔ a.indexOf? c = some i
  /-- The columns in use are those below the number of symbols. -/
  exists_indexOf?_iff : ∀ i, (∃ c, a.indexOf? c = some i) ↔ i < a.size
  contains_iff : ∀ c, a.contains c = true ↔ ∃ i, a.indexOf? c = some i
  indexOf?_insert_self : ∀ c, (a.insert c).indexOf? c = some (a.column c)
  /-- A column stays with its symbol, whatever is inserted. -/
  indexOf?_foldl_insert : ∀ c i (es : List Char), a.indexOf? c = some i →
    (es.foldl insert a).indexOf? c = some i
  insert_of_contains : ∀ c, a.contains c = true → a.insert c = a

theorem numbered (a : Alphabet) : a.Numbered where
  symbolAt?_eq_some_iff _ _ := a.indexOf?_eq_some_iff.symm
  exists_indexOf?_iff i := by
    have hsymbol : (∃ c, a.indexOf? c = some i) ↔ ∃ c, a.symbols[i]? = some c :=
      exists_congr fun _ => a.indexOf?_eq_some_iff
    rw [hsymbol, ← Option.isSome_iff_exists, isSome_getElem?]
    rfl
  contains_iff c := by
    rw [Alphabet.contains_iff, ← isSome_indexOf?_iff, Option.isSome_iff_exists]
  indexOf?_insert_self c := by rw [indexOf?_insert, if_pos rfl]
  indexOf?_foldl_insert _ _ es h := indexOf?_foldl_insert_of_some h es
  insert_of_contains _ h := insert_of_mem (Alphabet.contains_iff.mp h)

/-- The alphabet of a list of symbols, extended by others one by one. -/
def extended (collected inserted : List Char) : Alphabet :=
  inserted.foldl insert (ofList collected)

theorem represents_ofList (cs : List Char) : (SymbolTable.ofList cs).Represents (ofList cs) :=
  SymbolTable.Represents.empty.insertAll cs

theorem represents_extended (cs ds : List Char) :
    (SymbolTable.extended cs ds).Represents (extended cs ds) :=
  (represents_ofList cs).insertAll ds

/-- **Columns of inserted symbols.**  Collect some symbols, or none, and insert others one by one.
Then symbols and columns determine each other, and the columns are the numbers below the size.  A
column never changes, and a symbol that is present is inserted without effect.  The collected
symbols are the first occurrences, in their order, so the alphabet of all its symbols is the
alphabet itself.  Two alphabets are compared as sets of symbols.

A table that is filled with the same symbols represents the alphabet.  So its list and its index are
inverse to each other, an insertion answers the column of the symbol, the table of its own symbols
represents the same alphabet, and tables are compared as their alphabets are. -/
theorem columns_of_insertions (cs ds : List Char) :
    (extended cs ds).Numbered ∧
    ((ofList cs).symbols = cs.eraseDups ∧ ofList (extended cs ds).symbols = extended cs ds) ∧
    (∀ cs' ds', (extended cs ds).sameSymbols (extended cs' ds') = true ↔
      ∀ c, (extended cs ds).contains c = (extended cs' ds').contains c) ∧
    (SymbolTable.extended cs ds).Represents (extended cs ds) ∧
    (∀ c i, (SymbolTable.extended cs ds).symbolAt? i = some c ↔
      (SymbolTable.extended cs ds).indexOf? c = some i) ∧
    (∀ c, (SymbolTable.extended cs ds).contains c = (extended cs ds).contains c ∧
      ((SymbolTable.extended cs ds).insert c).2 = (extended cs ds).column c) ∧
    (SymbolTable.ofList (SymbolTable.extended cs ds).symbols).Represents (extended cs ds) ∧
    ∀ cs' ds', (SymbolTable.extended cs ds).sameSymbols (SymbolTable.extended cs' ds') =
      (extended cs ds).sameSymbols (extended cs' ds') := by
  have htable := represents_extended cs ds
  refine ⟨numbered _, ⟨symbols_ofList cs, ofList_symbols _⟩, fun cs' ds' => ?_, htable,
    htable.symbolAt?_eq_some_iff, fun c => ⟨htable.contains_eq c, (htable.insert c).2⟩, ?_,
    fun cs' ds' => htable.sameSymbols_eq (represents_extended cs' ds')⟩
  · rw [sameSymbols_iff]
    refine forall_congr' fun c => ?_
    rw [← Alphabet.contains_iff, ← Alphabet.contains_iff, Bool.coe_iff_coe]
  · have hback := represents_ofList (extended cs ds).symbols
    rwa [ofList_symbols, ← htable.symbols_eq] at hback

/-- The symbols of `abca` are collected and `b` and `d` are inserted.  Then `d` has the column 3,
which is what the index of the table finds, the next new symbol is given the column 4, `c` keeps its
column when more symbols follow, and the alphabet is the same set as that of `dcba`, though in other
columns. -/
theorem columns_of_insertions_abca :
    (SymbolTable.extended ['a', 'b', 'c', 'a'] ['b', 'd']).indexOf? 'd' = some 3 ∧
      ((SymbolTable.extended ['a', 'b', 'c', 'a'] ['b', 'd']).insert 'x').2 = 4 ∧
      (['x', 'a'].foldl insert (extended ['a', 'b', 'c', 'a'] ['b', 'd'])).indexOf? 'c' = some 2 ∧
      (SymbolTable.extended ['a', 'b', 'c', 'a'] ['b', 'd']).sameSymbols
        (SymbolTable.extended ['d', 'c', 'b', 'a'] []) = true := by
  obtain ⟨hnumbered, -, -, htable, -, hreads, -, hcompare⟩ :=
    columns_of_insertions ['a', 'b', 'c', 'a'] ['b', 'd']
  refine ⟨?_, ?_, ?_, ?_⟩
  · rw [htable.indexOf?_eq]
    decide
  · rw [(hreads 'x').2]
    decide
  · exact hnumbered.indexOf?_foldl_insert 'c' 2 ['x', 'a'] (by decide)
  · rw [hcompare ['d', 'c', 'b', 'a'] []]
    decide

end Alphabet

end AutomatonKit
