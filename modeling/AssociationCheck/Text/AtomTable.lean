/-
Numbered texts.

Every text is kept once and known by its number. The empty text is there from the start, and
stands for every number that names no text.
-/

namespace AssociationCheck.Text

structure Atom where
  index : Nat
  deriving DecidableEq, Repr

structure AtomTable where
  texts : Array String
  deriving DecidableEq, Repr

namespace AtomTable

def initial : AtomTable := ⟨#[""]⟩

def size (table : AtomTable) : Nat := table.texts.size

def find? (table : AtomTable) (text : String) : Option Atom :=
  (table.texts.idxOf? text).map Atom.mk

def intern (table : AtomTable) (text : String) : Atom × AtomTable :=
  match table.find? text with
  | some atom => (atom, table)
  | none => (⟨table.size⟩, ⟨table.texts.push text⟩)

def resolve (table : AtomTable) (atom : Atom) : String := table.texts[atom.index]?.getD ""

end AtomTable

end AssociationCheck.Text
