/-!
# Alphabets

An alphabet is a set of symbols with an order: each symbol keeps the column in which it was first
seen.  The order only serves to number the columns of a transition table.  What an alphabet *means*
is the set, and `Alphabet.sameSymbols` compares two alphabets as sets.
-/

namespace AutomatonKit

/-- A list of distinct symbols.  The position of a symbol is its column. -/
structure Alphabet where
  /-- The symbols in the order in which they were first seen. -/
  symbols : List Char
  /-- No symbol has two columns. -/
  nodup : symbols.Nodup
deriving DecidableEq

namespace Alphabet

def empty : Alphabet :=
  ⟨[], .nil⟩

instance : Inhabited Alphabet := ⟨empty⟩

/-- The number of symbols, which is also the next free column. -/
def size (a : Alphabet) : Nat :=
  a.symbols.length

def contains (a : Alphabet) (symbol : Char) : Bool :=
  a.symbols.contains symbol

/-- The column of a symbol, if it belongs to the alphabet. -/
def indexOf? (a : Alphabet) (symbol : Char) : Option Nat :=
  a.symbols.idxOf? symbol

/-- The symbol of a column. -/
def symbolAt? (a : Alphabet) (column : Nat) : Option Char :=
  a.symbols[column]?

/-- The column of a symbol, or the next free column for a symbol that has none yet. -/
def column (a : Alphabet) (symbol : Char) : Nat :=
  a.symbols.idxOf symbol

/-- The alphabet extended by a symbol, which gets the next free column.  A symbol that is present
keeps its column. -/
def insert (a : Alphabet) (symbol : Char) : Alphabet :=
  if h : symbol ∈ a.symbols then a
  else
    ⟨a.symbols ++ [symbol],
      List.nodup_append.2 ⟨a.nodup, by simp, by
        intro x hx y hy
        rw [List.mem_singleton] at hy
        exact fun hxy => h (hy ▸ hxy ▸ hx)⟩⟩

/-- The alphabet of the symbols of a list, in the order of their first occurrences. -/
def ofList (symbols : List Char) : Alphabet :=
  symbols.foldl insert empty

/-- Whether two alphabets have the same symbols, in whatever columns. -/
def sameSymbols (a b : Alphabet) : Bool :=
  a.size == b.size && a.symbols.all b.contains

end Alphabet

end AutomatonKit
