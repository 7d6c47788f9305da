import Joinery.Yaml.Tree

/-!
# Reading YAML

The tree of a document is read level by level: all scalars of a level before what is in the lists
and mappings on it, so the first failure is that on the highest level. A key that occurs twice keeps
its first place and its last value, what holds other nodes is no key, and what is merged into a
mapping comes before its own entries. With a tag that says so a list stands for pairs, each of which
is a mapping with one entry, and a mapping stands for the set of its keys.
-/
namespace Joinery.Yaml

/-- What a part of a document stands for, or its first failure and how far below the part it is. -/
abbrev Leveled (α : Type) := Except (Nat × Failure) α

namespace Leveled

/-- A failure on the level of the part itself. -/
def here {α : Type} : Except Failure α → Leveled α
  | .ok a => .ok a
  | .error failure => .error (0, failure)

/-- The same, one level further down. -/
def below {α : Type} : Leveled α → Leveled α
  | .ok a => .ok a
  | .error (depth, failure) => .error (depth + 1, failure)

/-- Both of two parts; of two failures on one level the first one counts. -/
def both {α β : Type} : Leveled α → Leveled β → Leveled (α × β)
  | .ok a, .ok b => .ok (a, b)
  | .error (m, f), .error (n, g) => if n < m then .error (n, g) else .error (m, f)
  | .error e, .ok _ => .error e
  | .ok _, .error e => .error e

/-- All parts of a list. -/
def all {α : Type} : List (Leveled α) → Leveled (List α)
  | [] => .ok []
  | a :: rest => (both a (all rest)).map fun (a, rest) => a :: rest

end Leveled

/-- A key and what stands under it. -/
abbrev Entry := Leveled Node × Leveled Node

/-- What a part of a document can be read as. -/
structure Part where
  tag : Tag
  node : Leveled Node
  /-- The text, where a scalar is needed. -/
  text : Except Failure String := malformed
  /-- The entries, where a mapping is needed. -/
  entries : Except Failure (List Entry) := malformed
  /-- The entries of a mapping, or of several, the last one first. -/
  merged : Except Failure (List Entry) := malformed
  /-- The only entry, where a pair is needed. -/
  pair : Leveled Node := .error (0, .settings .malformed)

/-! ### Mappings -/

/-- The node of a key, which holds no others. -/
def Part.keyNode (p : Part) : Leveled Node :=
  if p.tag.isCollection then .here malformed
  else if p.tag = .value then .here (p.text.map Node.text)
  else p.node

/-- What is merged into a mapping, and its own entries. -/
def splitEntries : List (Part × Part) → Except Failure (List Entry × List Entry)
  | [] => .ok ([], [])
  | (key, p) :: rest => do
    if key.tag = .merge then
      let more ← p.merged
      let (merged, own) ← splitEntries rest
      return (more ++ merged, own)
    else
      let (merged, own) ← splitEntries rest
      return (merged, (key.keyNode, p.node) :: own)

/-- The entries of a mapping: first what is merged into it, then its own. -/
def entriesOf (parts : List (Part × Part)) : Except Failure (List Entry) :=
  (splitEntries parts).map fun (merged, own) => merged ++ own

/-- The keys of entries with what stands under them. -/
def mappingOf (entries : List Entry) : Leveled (List (Node × Node)) :=
  (Leveled.all (entries.map fun (key, n) => key.both n)).map fun entries =>
    entries.foldl (fun done (key, n) => Node.setEntry done key n) []

/-- The text of the scalar that a mapping stands for. -/
def valueText (parts : List (Part × Part)) : Except Failure String :=
  match parts.find? (·.1.tag = .value) with
  | some (_, p) => p.text
  | none => malformed

/-- The pair that the only entry of a mapping is. -/
def pairOf : List (Part × Part) → Leveled Node
  | [(key, p)] => (key.node.both p.node).map fun (a, b) => .pair a b
  | _ => .error (0, .settings .malformed)

/-! ### Trees -/

/-- What a list or a mapping with a tag stands for, given what it stands for with each of its own
tags, and the text that is needed for others. -/
def collection (tag : Tag) (own : List (Tag × Leveled Node)) (text : Except Failure String) :
    Leveled Node :=
  match own.lookup tag with
  | some n => n.below
  | none =>
    if tag.isCollection then .error (1, .settings .malformed)
    else if tag = .stamp then .here (text >>= fun _ => .error (.misuse (.notText .list)))
    else .here (text >>= scalar tag)

mutual

/-- What a tree can be read as. -/
def part : Tree → Part
  | .scalar tag text =>
    { tag
      node :=
        if tag.isCollection then .error (1, .settings .malformed) else .here (scalar tag text)
      text := .ok text }
  | .list tag items =>
    let parts := itemParts items
    let list := (Leveled.all (parts.map Part.node)).map .list
    let pairs := (Leveled.all (parts.map Part.pair)).map .list
    { tag
      node := collection tag [(.list, list), (.pairs, pairs)] malformed
      merged := (parts.reverse.mapM Part.entries).map List.flatten }
  | .mapping tag entries =>
    let parts := entryParts entries
    let own := entriesOf parts
    let text := valueText parts
    let entries := (Leveled.here own).bind mappingOf
    let set := entries.map fun entries => .set (entries.map Prod.fst)
    { tag
      node := collection tag [(.mapping, entries.map .mapping), (.set, set)] text
      text
      entries := own
      merged := own
      pair := pairOf parts }

def itemParts : List Tree → List Part
  | [] => []
  | tree :: rest => part tree :: itemParts rest

/-- What the keys of a mapping and what stands under them can be read as. -/
def entryParts : List (Tree × Tree) → List (Part × Part)
  | [] => []
  | (key, tree) :: rest => (part key, part tree) :: entryParts rest

end

/-- Whether a character may stand in a document. -/
def isAllowed (c : Char) : Bool :=
  let n := c.toNat
  n == 9 || n == 10 || n == 13 || (0x20 ≤ n && n ≤ 0x7E) || n == 0x85 ||
    (0xA0 ≤ n && n ≤ 0xD7FF) || (0xE000 ≤ n && n ≤ 0xFFFD) || 0x10000 ≤ n

/-- Reads a document; an empty one is null. -/
def read (document : String) : Except Failure Node := do
  let cs := document.toList
  if !cs.all isAllowed then malformed
  let cs := if cs.head? = some '\uFEFF' then cs.drop 1 else cs
  match ← Tree.ofTokens (.ofText cs) with
  | none => return .scalar .null
  | some tree => (part tree).node.mapError Prod.snd

end Joinery.Yaml
