import Joinery.Catalogue
import Joinery.Failure
import Joinery.Geometry.Edge
import Joinery.Joint.Basic
import Joinery.Notice

/-!
# Joint stores

The joints of a design by the keys of their edges, in order of insertion. An edge of a shape without
a joint of its own takes the one under its local key, which documents from before shapes had ids use.
Operations answer the changes of the contents they tell listeners of; clearing and loading tell of
none.
-/
namespace Joinery

/-- The joint that is now under a key; none after a removal. -/
structure JointChange where
  key : Value
  joint : Option Joint

structure JointStore where
  joints : Catalogue Joint := .empty
  defaults : JointDefaults := {}

/-- What an operation on a store answers. -/
structure JointStep (α : Type) where
  answer : α
  store : JointStore
  /-- What listeners are told, in order. -/
  changes : List JointChange := []

namespace JointStore

variable {α : Type}

/-- The keys with their joints, in order. -/
def items (s : JointStore) : List (Value × Joint) := s.joints.entries

def size (s : JointStore) : Nat := s.joints.size

/-- The joint under a text key. -/
def at? (s : JointStore) (key : String) : Option Joint := s.joints.atText? key

/-- The joint under a key. -/
def atKey? (s : JointStore) (key : Value) : Except Misuse (Option Joint) :=
  s.joints.find? key

def contains (s : JointStore) (key : Value) : Except Misuse Bool := s.joints.contains key

/-- The joint of an edge. -/
def get (s : JointStore) (e : Edge α) : Option Joint :=
  match s.at? e.key with
  | some j => some j
  | none => if e.isOwned then s.at? e.localKey else none

/-- Puts a joint under a key without telling anybody; a key that is there keeps its place. -/
def put (s : JointStore) (key : Value) (j : Joint) : Except Misuse JointStore := do
  return { s with joints := ← s.joints.insert key j }

/-- Stores a joint for an edge, aligned to the left if it has no alignment. -/
def set (s : JointStore) (e : Edge α) (j : Joint) : JointStep Joint :=
  let stored := j.aligned
  let key := e.key
  ⟨stored, { s with joints := s.joints.insertText key stored }, [⟨.text key, some stored⟩]⟩

/-- Stores a joint for an edge; without either nothing happens. -/
def set? (s : JointStore) : Option (Edge α) → Option Joint → JointStep (Option Joint)
  | some e, some j =>
    let step := s.set e j
    ⟨some step.answer, step.store, step.changes⟩
  | _, _ => ⟨none, s, []⟩

/-- Names that no setting has, since they stand for what is given beside the settings. -/
def reserved : List String := ["self", "edge", "joint_type"]

/-- The joint of a type with given settings; the defaults fill in. -/
def filled (defaults : JointDefaults) (type : Value) (given : List (String × Value)) :
    Except Failure Joint :=
  let known := ["thickness_mm", "finger_count", "align"]
  if let some (name, _) := given.find? fun field => reserved.contains field.1 then
    .error (.misuse (.unknownField name))
  else match (given.filter fun field => !known.contains field.1).map Prod.fst with
  | [] =>
    .ok
      { type := type.orElse (.text defaults.kind.label)
        thickness := (given.lookup "thickness_mm").getD (.ofNumber defaults.thickness)
        fingerCount := (given.lookup "finger_count").getD (.int defaults.fingerCount)
        align := (given.lookup "align").getD (.text defaults.align.label) }
  | unknown => .error (.jointSettings (unknown.mergeSort (· ≤ ·)))

/-- Stores a joint of a type with given settings, filled in from the defaults of the store. -/
def assign (s : JointStore) (e : Option (Edge α)) (type : Value)
    (given : List (String × Value)) : Except Failure (JointStep (Option Joint)) := do
  return s.set? e (some (← filled s.defaults type given))

/-- Removes the joint under a key of a store. -/
def eraseKey (s : JointStore) (key : String) : JointStore :=
  { s with joints := s.joints.eraseText key }

/-- Removes the joint of an edge, under its own key or else under its local one; answers whether
there was one. -/
def remove (s : JointStore) (e : Edge α) : JointStep Bool :=
  match [e.key, e.localKey].find? fun key => (s.at? key).isSome with
  | some key => ⟨true, s.eraseKey key, [⟨.text key, none⟩]⟩
  | none => ⟨false, s, []⟩

/-- Turns the joint of an edge to the other alignment. -/
def flip (s : JointStore) (e : Edge α) : JointStep (Option Joint) :=
  match s.get e with
  | none => ⟨none, s, []⟩
  | some j => s.set? (some e) (some j.flipped)

/-! ### Shapes -/

/-- The part of a text before its last colon. -/
def beforeLastColon? (cs : List Char) : Option (List Char) :=
  match cs.reverse.dropWhile (· ≠ ':') with
  | [] => none
  | _ :: rest => some rest.reverse

/-- The shape that a key names; none for a local key. -/
def shapeOf? (key : String) : Option String :=
  match beforeLastColon? key.toList >>= beforeLastColon? with
  | some (c :: cs) => some (String.ofList (c :: cs))
  | _ => none

/-- Whether a key belongs to a shape; the local keys belong to no shape. -/
def belongsTo (shape : Value) (key : String) : Bool :=
  match shapeOf? key with
  | some owner => shape.equals (.text owner)
  | none => shape.isNull

/-- The text that a key is; other keys have no parts. -/
def textKey : Value → Except Misuse String
  | .text key => .ok key
  | v => .error (.notObject v.kind)

/-- Removes every joint of a shape; answers their number. -/
def removeShape (s : JointStore) (shape : Value) : Except Misuse (JointStep Nat) := do
  let keys ← s.items.mapM fun item => textKey item.1
  let doomed := keys.filter (belongsTo shape)
  return ⟨doomed.length, doomed.foldl eraseKey s, doomed.map fun key => ⟨.text key, none⟩⟩

/-- The notices about joints that were removed with a shape. -/
def removalNotices (count : Nat) (shape : Value) : List Notice :=
  if count = 0 then [] else [.jointsRemoved count shape]

def clear (s : JointStore) : JointStore := { s with joints := .empty }

/-! ### Documents -/

/-- The entry of a joint in a document: its key, then its fields. -/
def entry (key : Value) (j : Joint) : Value :=
  .object (if key.isNull then j.toFields else ("key", key) :: j.toFields)

def toValue (s : JointStore) : Value := .list (s.items.map fun (key, j) => entry key j)

/-- How far loading has come: the store so far, what was noticed, and the cause that ended it. -/
structure Loaded where
  store : JointStore
  notices : List Notice := []
  result : Except Misuse Unit := .ok ()

/-- The key of an entry of a document that is one: an object with a key and a type. -/
def keyOf? (v : Value) : Option Value :=
  match v with
  | .object fields =>
    let key := (fields.lookup "key").getD .null
    let type := (fields.lookup "type").getD .null
    if key.isTruthy && type.isTruthy then some key else none
  | _ => none

/-- Puts the entries of a document into a store; what is no entry is skipped. -/
def loadFrom (s : JointStore) : List Value → Loaded
  | [] => ⟨s, [], .ok ()⟩
  | v :: rest =>
    match keyOf? v with
    | none =>
      let more := loadFrom s rest
      { more with notices := .entrySkipped v :: more.notices }
    | some key =>
      match Joint.ofValue v >>= s.put key with
      | .ok s' => loadFrom s' rest
      | .error cause => ⟨s, [], .error cause⟩

/-- Replaces the contents by the entries of a document; a failure leaves what was put so far. -/
def load (s : JointStore) (entries : Value) : Loaded :=
  match entries.itemsOrNone with
  | .ok items => loadFrom s.clear items
  | .error cause => ⟨s.clear, [], .error cause⟩

end JointStore

/-! ### Listeners -/

/-- Those that are told of changes, by number in the order in which they came; some leave when they
have been told once. -/
structure Audience where
  members : List (Nat × Bool) := []
  next : Nat := 0

namespace Audience

/-- Adds a listener; answers its number. -/
def join (a : Audience) (onlyOnce : Bool) : Nat × Audience :=
  (a.next, ⟨a.members ++ [(a.next, onlyOnce)], a.next + 1⟩)

/-- Removes a listener, if it is there. -/
def leave (a : Audience) (number : Nat) : Audience :=
  { a with members := a.members.filter fun member => member.1 ≠ number }

/-- Tells changes, one after the other; answers who heard what. -/
def hear (a : Audience) : List JointChange → List (Nat × JointChange) × Audience
  | [] => ([], a)
  | change :: rest =>
    let (later, a') := hear { a with members := a.members.filter fun member => !member.2 } rest
    (a.members.map (fun member => (member.1, change)) ++ later, a')

end Audience

end Joinery
