import Joinery.Value.Shown
import Joinery.Yaml.Bytes
import Joinery.Yaml.Stamp

/-!
# Nodes of YAML documents

A YAML document holds a tree of scalars, stamps, bytes, lists and mappings, and of pairs and sets of
them. The keys of a mapping and the members of a set are nodes too, not only texts, but none that
hold others.
-/
namespace Joinery

inductive Node where
  /-- Null, a truth value, a number or a text. -/
  | scalar (value : Value)
  | stamp (value : Yaml.Stamp)
  | bytes (data : List UInt8)
  | list (items : List Node)
  | mapping (entries : List (Node × Node))
  | pair (first second : Node)
  | set (members : List Node)

namespace Node

instance : Inhabited Node := ⟨.scalar .null⟩

/-- The node that a text is. -/
def text (s : String) : Node := .scalar (.text s)

def isNull : Node → Bool
  | .scalar v => v.isNull
  | _ => false

/-- Whether a node counts as present. -/
def isTruthy : Node → Bool
  | .scalar v => v.isTruthy
  | .stamp _ | .pair .. => true
  | .bytes data => !data.isEmpty
  | .list items => !items.isEmpty
  | .mapping entries => !entries.isEmpty
  | .set members => !members.isEmpty

mutual

/-- The node that a document value is. -/
def ofValue : Value → Node
  | .list items => .list (ofValues items)
  | .object fields => .mapping (ofFields fields)
  | v => .scalar v

def ofValues : List Value → List Node
  | [] => []
  | v :: rest => ofValue v :: ofValues rest

def ofFields : List (String × Value) → List (Node × Node)
  | [] => []
  | (name, v) :: rest => (text name, ofValue v) :: ofFields rest

end

mutual

/-- A node as messages quote it. -/
def quoted : Node → String
  | .scalar v => v.quoted
  | .stamp s => s.quoted
  | .bytes data => Yaml.Bytes.quoted data
  | .list items => "[" ++ quotedItems items ++ "]"
  | .mapping entries => "\x7b" ++ quotedEntries entries ++ "\x7d"
  | .pair a b => "(" ++ quoted a ++ ", " ++ quoted b ++ ")"
  | .set [] => "set()"
  | .set members => "\x7b" ++ quotedItems members ++ "\x7d"

def quotedItems : List Node → String
  | [] => ""
  | [n] => quoted n
  | n :: rest => quoted n ++ ", " ++ quotedItems rest

def quotedEntries : List (Node × Node) → String
  | [] => ""
  | [(key, n)] => quoted key ++ ": " ++ quoted n
  | (key, n) :: rest => quoted key ++ ": " ++ quoted n ++ ", " ++ quotedEntries rest

end

/-- A node as messages show it. -/
def shown : Node → String
  | .scalar v => v.shown
  | .stamp s => s.shown
  | n => n.quoted

mutual

/-- Whether no integer in a node has too many digits to be written. -/
def isWritable : Node → Bool
  | .scalar v => v.isWritable
  | .stamp _ | .bytes _ => true
  | .list items | .set items => areWritable items
  | .mapping entries => entriesAreWritable entries
  | .pair a b => isWritable a && isWritable b

def areWritable : List Node → Bool
  | [] => true
  | n :: rest => isWritable n && areWritable rest

def entriesAreWritable : List (Node × Node) → Bool
  | [] => true
  | (key, n) :: rest => isWritable key && isWritable n && entriesAreWritable rest

end

/-- The name that a node has as that of a field in a JSON document. -/
def fieldName : Node → String
  | .scalar v => v.fieldName
  | n => n.shown

mutual

/-- The document value that a node is: stamps, bytes and the keys of mappings become texts, pairs and
sets become lists. -/
def toValue : Node → Value
  | .scalar v => v
  | .stamp s => .text s.shown
  | .bytes data => .text (Yaml.Bytes.quoted data)
  | .list items => .list (toValues items)
  | .mapping entries => .object (toFields entries)
  | .pair a b => .list [toValue a, toValue b]
  | .set members => .list (toValues members)

def toValues : List Node → List Value
  | [] => []
  | n :: rest => toValue n :: toValues rest

def toFields : List (Node × Node) → List (String × Value)
  | [] => []
  | (key, n) :: rest => (key.fieldName, toValue n) :: toFields rest

end

/-- Whether two nodes are the same key. -/
def sameKey : Node → Node → Bool
  | .scalar a, .scalar b => a.same b
  | .stamp a, .stamp b => a = b
  | .bytes a, .bytes b => a = b
  | _, _ => false

mutual

/-- Equal in value; NaN counts as equal to itself, and the order of entries and of members does not
matter. -/
def same : Node → Node → Bool
  | .list a, .list b => sameItems a b
  | .mapping a, .mapping b => a.length == b.length && sameEntries a b
  | .pair a c, .pair b d => same a b && same c d
  | .set a, .set b => a.length == b.length && a.all fun m => b.any m.sameKey
  | a, b => a.sameKey b

def sameItems : List Node → List Node → Bool
  | [], [] => true
  | a :: as, b :: bs => same a b && sameItems as bs
  | _, _ => false

/-- Every entry on the left has an equal one under its key on the right. -/
def sameEntries : List (Node × Node) → List (Node × Node) → Bool
  | [], _ => true
  | (key, a) :: rest, others =>
    (match others.find? fun entry => key.sameKey entry.1 with
      | some (_, b) => same a b
      | none => false) && sameEntries rest others

end

/-- Sets the node under a key: a new key comes last, an old one keeps its place. -/
def setEntry (entries : List (Node × Node)) (key n : Node) : List (Node × Node) :=
  if entries.any (·.1.sameKey key) then
    entries.map fun entry => if entry.1.sameKey key then (entry.1, n) else entry
  else entries ++ [(key, n)]

end Node

end Joinery
