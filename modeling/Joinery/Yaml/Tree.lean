import Joinery.Yaml.Scalar
import Joinery.Yaml.Token

/-!
# Trees of documents

The tokens of a document form a tree, in which every scalar, list and mapping has a tag. Where
nothing stands a scalar is empty. What an anchor stands at is copied to wherever it is referred to;
it has to be complete there.
-/
namespace Joinery.Yaml

inductive Tree where
  | scalar (tag : Tag) (text : String)
  | list (tag : Tag) (items : List Tree)
  | mapping (tag : Tag) (entries : List (Tree × Tree))

namespace Tree

instance : Inhabited Tree := ⟨.scalar .null ""⟩

/-- The tree where nothing stands. -/
def empty : Tree := .scalar .null ""

def tag : Tree → Tag
  | .scalar tag _ => tag
  | .list tag _ => tag
  | .mapping tag _ => tag

/-- What is known while a tree is read. -/
structure State where
  tokens : Tokens
  /-- What handles of tags stand for. -/
  handles : List (String × String) := []
  /-- The trees at anchors, none for one that is not complete. -/
  anchors : List (String × Option Tree) := []

/-- Reads a part of a tree. -/
abbrev Read := StateT State (Except Failure)

/-- The failure where tokens form no tree. -/
def refuse {α : Type} : Read α := throw (.settings .malformed)

/-- The next token. -/
def peek : Read Token := do
  let tokens := (← get).tokens
  match tokens.rest with
  | t :: _ => return t
  | [] => throw tokens.failure

/-- Leaves the next token behind. -/
def skip : Read Unit :=
  modify fun s => { s with tokens := { s.tokens with rest := s.tokens.rest.drop 1 } }

/-! ### Marks -/

/-- The anchor at the next token. -/
def takeAnchor : Read (Option String) := do
  match ← peek with
  | .anchor name => do
    skip
    return some name
  | _ => return none

/-- The name of the tag at the next token. -/
def takeTag : Read (Option String) := do
  match ← peek with
  | .tag t => do
    skip
    match t.handle with
    | none => return some t.name
    | some handle =>
      match (← get).handles.lookup handle with
      | some meaning => return some (meaning ++ t.name)
      | none => refuse
  | _ => return none

/-- The anchor and the tag in front of a part, in either order. -/
def takeMarks : Read (Option String × Option String) := do
  match ← takeAnchor with
  | some anchor => return (some anchor, ← takeTag)
  | none =>
    match ← takeTag with
    | some tag => return (← takeAnchor, some tag)
    | none => return (none, none)

/-- The tag of the name that is written, or the one that is suggested. -/
def tagOr (name : Option String) (suggested : Tag) : Tag :=
  match name with
  | none => suggested
  | some name => if name = "!" then suggested else .ofName name

/-- A scalar; an exclamation mark makes it plain. -/
def ofScalar (name : Option String) (text : String) (isPlain : Bool) : Tree :=
  let isSpelled := isPlain || name.isSome
  .scalar (tagOr name (if isSpelled then .ofSpelling text else .text)) text

/-- Keeps the tree at an anchor, whose name has to be new. -/
def keepAt (anchor : Option String) (read : Read Tree) : Read Tree := do
  match anchor with
  | none => read
  | some name =>
    if ((← get).anchors.lookup name).isSome then refuse
    modify fun s => { s with anchors := (name, none) :: s.anchors }
    let tree ← read
    modify fun s => { s with anchors := (name, some tree) :: s.anchors }
    return tree

/-- The tree at an anchor. -/
def find (name : String) : Read Tree := do
  match (← get).anchors.lookup name with
  | some (some tree) => return tree
  | _ => refuse

/-! ### Nodes -/

/-- Where a part stands: between brackets, in block style, or where the dashes of a list need no
column of their own. -/
inductive Style where
  | flow | block | loose
  deriving DecidableEq

/-- An empty scalar in front of some tokens. -/
def emptyBefore (ends : List Token) (read : Read Tree) : Read Tree := do
  if ends.contains (← peek) then return empty else read

/-- What stands behind a colon; nothing without a colon. -/
def valueBefore (ends : List Token) (read : Read Tree) : Read Tree := do
  match ← peek with
  | .value => do
    skip
    emptyBefore ends read
  | _ => return empty

mutual

/-- The part of a tree at the next token. -/
def node : Nat → Style → Read Tree
  | 0, _ => refuse
  | fuel + 1, style => do
    match ← peek with
    | .reference name => do
      skip
      find name
    | _ => do
      let (anchor, name) ← takeMarks
      keepAt anchor (content fuel style name (anchor.isSome || name.isSome))

/-- A part of a tree behind its marks. -/
def content : Nat → Style → Option String → Bool → Read Tree
  | 0, _, _, _ => refuse
  | fuel + 1, style, name, isMarked => do
    match ← peek with
    | .scalar text isPlain => do
      skip
      return ofScalar name text isPlain
    | .flowList => do
      skip
      return .list (tagOr name .list) (← flowItems fuel [])
    | .flowMapping => do
      skip
      return .mapping (tagOr name .mapping) (← flowEntries fuel [])
    | .blockList =>
      if style = .flow then orEmpty name isMarked
      else do
        skip
        return .list (tagOr name .list) (← blockItems fuel [])
    | .blockMapping =>
      if style = .flow then orEmpty name isMarked
      else do
        skip
        return .mapping (tagOr name .mapping) (← blockEntries fuel [])
    | .dash =>
      if style = .loose then return .list (tagOr name .list) (← looseItems fuel [])
      else orEmpty name isMarked
    | _ => orEmpty name isMarked

/-- An empty scalar, which needs a mark. -/
def orEmpty (name : Option String) (isMarked : Bool) : Read Tree :=
  if isMarked then return ofScalar name "" true else refuse

/-- The items of a list in block style. -/
def blockItems : Nat → List Tree → Read (List Tree)
  | 0, _ => refuse
  | fuel + 1, done => do
    match ← peek with
    | .dash => do
      skip
      let item ← emptyBefore [.dash, .blockEnd] (node fuel .block)
      blockItems fuel (item :: done)
    | .blockEnd => do
      skip
      return done.reverse
    | _ => refuse

/-- The items of a list whose dashes stand in the column of a mapping. -/
def looseItems : Nat → List Tree → Read (List Tree)
  | 0, _ => refuse
  | fuel + 1, done => do
    match ← peek with
    | .dash => do
      skip
      let item ← emptyBefore [.dash, .key, .value, .blockEnd] (node fuel .block)
      looseItems fuel (item :: done)
    | _ => return done.reverse

/-- The entries of a mapping in block style. -/
def blockEntries : Nat → List (Tree × Tree) → Read (List (Tree × Tree))
  | 0, _ => refuse
  | fuel + 1, done => do
    match ← peek with
    | .key => do
      skip
      let ends := [.key, .value, .blockEnd]
      let key ← emptyBefore ends (node fuel .loose)
      let value ← valueBefore ends (node fuel .loose)
      blockEntries fuel ((key, value) :: done)
    | .blockEnd => do
      skip
      return done.reverse
    | _ => refuse

/-- The items of a list between brackets. A key with a value is a mapping of its own. -/
def flowItems : Nat → List Tree → Read (List Tree)
  | 0, _ => refuse
  | fuel + 1, done => do
    if (← peek) ≠ .flowListEnd && !done.isEmpty then
      if (← peek) = .comma then skip else refuse
    match ← peek with
    | .flowListEnd => do
      skip
      return done.reverse
    | .key => do
      skip
      let key ← emptyBefore [.value, .comma, .flowListEnd] (node fuel .flow)
      let value ← valueBefore [.comma, .flowListEnd] (node fuel .flow)
      flowItems fuel (.mapping .mapping [(key, value)] :: done)
    | _ => do
      let item ← node fuel .flow
      flowItems fuel (item :: done)

/-- The entries of a mapping between brackets. -/
def flowEntries : Nat → List (Tree × Tree) → Read (List (Tree × Tree))
  | 0, _ => refuse
  | fuel + 1, done => do
    if (← peek) ≠ .flowMappingEnd && !done.isEmpty then
      if (← peek) = .comma then skip else refuse
    match ← peek with
    | .flowMappingEnd => do
      skip
      return done.reverse
    | .key => do
      skip
      let key ← emptyBefore [.value, .comma, .flowMappingEnd] (node fuel .flow)
      let value ← valueBefore [.comma, .flowMappingEnd] (node fuel .flow)
      flowEntries fuel ((key, value) :: done)
    | _ => do
      let key ← node fuel .flow
      flowEntries fuel ((key, empty) :: done)

end

/-! ### Documents -/

/-- The directives in front of a document: a version at most once, and every handle at most once. -/
def directives : Nat → Bool → Read Unit
  | 0, _ => refuse
  | fuel + 1, hasVersion => do
    match ← peek with
    | .directive (.version major) => do
      skip
      if hasVersion || major ≠ 1 then refuse
      directives fuel true
    | .directive (.handle name meaning) => do
      skip
      if ((← get).handles.lookup name).isSome then refuse
      modify fun s => { s with handles := (name, meaning) :: s.handles }
      directives fuel hasVersion
    | .directive .ignored => do
      skip
      directives fuel hasVersion
    | _ => return

/-- The handles that need no directive. -/
def defaultHandles : List (String × String) := [("!", "!"), ("!!", Tag.standard)]

/-- Leaves the ends of a document behind. -/
def skipEnds : Nat → Read Unit
  | 0 => refuse
  | fuel + 1 => do
    if (← peek) = .documentEnd then
      skip
      skipEnds fuel

/-- The tree at the start of a document; none when nothing stands in it. -/
def root (fuel : Nat) : Read (Option Tree) := do
  match ← peek with
  | .streamEnd => return none
  | .directive _ | .documentStart => do
    directives fuel false
    modify fun s => { s with handles := s.handles ++ defaultHandles }
    if (← peek) ≠ .documentStart then refuse
    skip
    match ← peek with
    | .directive _ | .documentStart | .documentEnd | .streamEnd => return some empty
    | _ => return some (← node fuel .block)
  | _ => do
    modify fun s => { s with handles := defaultHandles }
    return some (← node fuel .block)

/-- The tree of a text with one document. -/
def document (fuel : Nat) : Read (Option Tree) := do
  let tree ← root fuel
  skipEnds fuel
  if (← peek) ≠ .streamEnd then refuse
  return tree

/-- The tree that tokens form. -/
def ofTokens (tokens : Tokens) : Except Failure (Option Tree) :=
  ((document (4 * tokens.rest.length + 8)).run { tokens }).map Prod.fst

end Tree

end Joinery.Yaml
