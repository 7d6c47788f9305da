import Joinery.Table
import Joinery.Value.Basic

/-!
# Catalogues

Finite maps whose keys are document values, in the order in which the keys were first inserted. Keys
of equal value are one key, and the value by which an entry was first stored is the one that is
shown. NaN is a key that is never found again, and every NaN that is stored is an entry of its own.
Lists and objects are no keys.
-/
namespace Joinery

structure Catalogue (β : Type) where
  /-- The entries by key, each with the value that it was first stored by. -/
  table : Table Value.Key (Value × β) := Table.empty

namespace Catalogue

variable {β : Type}

def empty : Catalogue β := {}

instance : Inhabited (Catalogue β) := ⟨empty⟩

/-- The entries in order. -/
def entries (c : Catalogue β) : List (Value × β) := c.table.values

def keys (c : Catalogue β) : List Value := c.entries.map Prod.fst

/-- The keys, all of which have to be texts. -/
def textKeys (c : Catalogue β) : Except Misuse (List String) := c.keys.mapM Value.asText

def values (c : Catalogue β) : List β := c.entries.map Prod.snd

/-- The keys that entries are stored under, with what is stored. -/
def slots (c : Catalogue β) : List (Value.Key × β) :=
  c.table.entries.map fun (key, _, b) => (key, b)

def size (c : Catalogue β) : Nat := c.table.size

/-- What is stored under a key. -/
def at? (c : Catalogue β) (key : Value.Key) : Option β := (c.table.find? key).map Prod.snd

/-- What is stored under a text. -/
def atText? (c : Catalogue β) (text : String) : Option β := c.at? (.text text)

def find? (c : Catalogue β) (v : Value) : Except Misuse (Option β) := do
  return c.at? (← v.key)

def contains (c : Catalogue β) (v : Value) : Except Misuse Bool := do
  return c.table.contains (← v.key)

/-- A mark that no key bears. -/
def newMark (c : Catalogue β) : Nat := c.table.keys.foldl (fun mark key => max mark key.mark) 0 + 1

/-- The key that something new is stored under. -/
def ownKey (c : Catalogue β) : Value.Key → Value.Key
  | .nan _ => .nan c.newMark
  | key => key

/-- Stores something under the key that a value is; a key that is there keeps its place. -/
def insert (c : Catalogue β) (v : Value) (b : β) : Except Misuse (Catalogue β) := do
  let key := c.ownKey (← v.key)
  let shown := ((c.table.find? key).map Prod.fst).getD v
  return ⟨c.table.insert key (shown, b)⟩

/-- Stores something under a text. -/
def insertText (c : Catalogue β) (text : String) (b : β) : Catalogue β :=
  ⟨c.table.insert (.text text) (.text text, b)⟩

/-- Changes what is stored under a key. -/
def modify (c : Catalogue β) (key : Value.Key) (change : β → β) : Catalogue β :=
  match c.table.find? key with
  | some (shown, b) => ⟨c.table.insert key (shown, change b)⟩
  | none => c

/-- Removes what is stored under a key, if anything is. -/
def eraseAt (c : Catalogue β) (key : Value.Key) : Catalogue β := ⟨c.table.erase key⟩

/-- Removes a key, if it is there; an empty catalogue is not even asked. -/
def erase (c : Catalogue β) (v : Value) : Except Misuse (Catalogue β) := do
  if c.size = 0 then return c else return c.eraseAt (← v.key)

/-- Removes a text, if it is there. -/
def eraseText (c : Catalogue β) (text : String) : Catalogue β := c.eraseAt (.text text)

/-- The catalogue that results from storing things under texts, one after the other. -/
def ofTexts (entries : List (String × β)) : Catalogue β :=
  entries.foldl (fun c entry => c.insertText entry.1 entry.2) empty

end Catalogue

end Joinery
