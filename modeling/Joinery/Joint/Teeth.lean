import Joinery.Geometry.Box
import Joinery.Geometry.Edge
import Joinery.Joint.Basic
import Joinery.Notice

/-!
# Teeth

The teeth of a joint along a straight edge. The edge is divided into slots of one width, and every
other slot carries a tooth, beginning with the first or, for edges aligned to the right, with the
second. Teeth point to the outer side, which is the side away from the center of the part's box, and
those of a dovetail grow wider outwards. Depth follows the thickness within limits that the length of
the edge sets; the number of slots is the one asked for, or as many as fit.
-/
namespace Joinery

/-- A tooth. Distances are measured along the edge from its start. -/
structure Tooth (α : Type) where
  /-- The number of the slot. -/
  index : Nat
  startDistance : α
  width : α
  depth : α
  /-- From the base to the outer side. -/
  outwardOffset : Point α
  /-- How far each outer corner is moved along the edge. -/
  taper : α

namespace Tooth

variable {α : Type} [Arithmetic α]

/-- No tooth is narrower, and no shorter edge carries teeth. -/
def minLength : α := Arithmetic.decimal 1 3

def minDepth : α := Arithmetic.decimal 5 1

/-- The depth of a tooth as a part of the length of the edge, at most. -/
def maxDepthRatio : α := Arithmetic.decimal 45 2

/-- How much deeper dovetails are. -/
def dovetailFactor : α := Arithmetic.decimal 16 1

def maxDovetailRatio : α := Arithmetic.decimal 6 1

/-- The taper as a part of depth and width, at most. -/
def taperRatio : α := Arithmetic.decimal 2 1

/-- Teeth of a count that nobody asked for are at least this wide. -/
def minFreeWidth : α := Arithmetic.decimal 4 0

def endDistance (t : Tooth α) : Except Misuse α := Arithmetic.add t.startDistance t.width

/-- The depth of teeth for a thickness on an edge of a length. -/
def depthFor (kind : JointKind) (thickness : Value) (length : α) : Except Misuse α := do
  let asked := (← Arithmetic.read thickness).getD (Arithmetic.decimal 0 0)
  let depth ← Arithmetic.least (← Arithmetic.greatest asked minDepth)
    (← Arithmetic.mul length maxDepthRatio)
  match kind with
  | .finger => return depth
  | .dovetail =>
    Arithmetic.least (← Arithmetic.mul depth dovetailFactor)
      (← Arithmetic.mul length maxDovetailRatio)

/-- The number of slots, and the limit that cut it down if one did. -/
structure Slots where
  count : Int
  limit : Option Int := none

/-- As many slots as fit, two at least. -/
def freeSlots (length depth : α) : Except Misuse Slots := do
  let width ← Arithmetic.greatest (← Arithmetic.mul (Arithmetic.ofInt 2) depth) minFreeWidth
  return ⟨max 2 (← Arithmetic.floor (← Arithmetic.div length width)), none⟩

/-- The number asked for, cut down to what fits. -/
def askedSlots (asked length : α) : Except Misuse Slots := do
  let limit := max 2 (← Arithmetic.floor (← Arithmetic.div length minLength))
  if ← Arithmetic.lt (Arithmetic.ofInt limit) asked then return ⟨limit, some limit⟩
  else return ⟨← Arithmetic.floor asked, none⟩

/-- The slots for a finger count on an edge of a length. A count below two, or one that is no finite
number, leaves the choice open. -/
def slotsFor (fingerCount : Value) (length depth : α) : Except Misuse Slots := do
  match ← Arithmetic.read fingerCount with
  | some asked =>
    if Arithmetic.isFinite asked then
      if ← Arithmetic.le (Arithmetic.ofInt 2) asked then askedSlots asked length
      else freeSlots length depth
    else freeSlots length depth
  | none => freeSlots length depth

/-- The direction to the outer side of an edge: away from the center of a box. Without a box, and
when the edge points at its center, it is to the left. -/
def outwardNormal (e : Edge α) (bounds : Option (Box α)) : Except Misuse (Point α) := do
  let n ← (← (← e.direction).unit).leftTurn
  match bounds with
  | none => return n
  | some box =>
    let side ← (← (← e.midpoint).sub (← box.center)).dot n
    if ← Arithmetic.lt side (Arithmetic.ofInt 0) then n.neg else return n

/-- How far the outer corners are moved. -/
def taperFor (kind : JointKind) (depth width : α) : Except Misuse α := do
  match kind with
  | .finger => return Arithmetic.decimal 0 0
  | .dovetail =>
    Arithmetic.least (← Arithmetic.mul depth taperRatio) (← Arithmetic.mul width taperRatio)

/-- The numbers of the slots that carry teeth. -/
def slotIndices (right : Bool) (count : Int) : List Nat :=
  let first := if right then 1 else 0
  (List.range ((count.toNat + 1 - first) / 2)).map fun i => 2 * i + first

/-- The tooth in a slot, on the side of a normal. -/
def inSlot (n : Point α) (depth width taper : α) (index : Nat) : Except Misuse (Tooth α) := do
  let start ← Arithmetic.mul (Arithmetic.ofInt index) width
  return ⟨index, start, width, depth, ← n.scale depth, taper⟩

/-- What there is to say about the teeth of an edge. -/
inductive Cut (α : Type) where
  /-- There is no edge or no joint. -/
  | nothing
  | unknownKind (key : String) (type : Value)
  /-- The edge is too short, or its length is no number. -/
  | degenerate (key : String) (length : α)
  /-- The teeth, with the limit to which their count was cut down. -/
  | teeth (teeth : List (Tooth α)) (limit : Option Int) (asked : Value) (length : α)

/-- The teeth of a joint of a kind on an edge of a length. -/
def row (e : Edge α) (joint : Joint) (kind : JointKind) (bounds : Option (Box α)) (length : α) :
    Except Misuse (Cut α) := do
  let n ← outwardNormal e bounds
  let depth ← depthFor kind joint.thickness length
  let slots ← slotsFor joint.fingerCount length depth
  let width ← Arithmetic.div length (Arithmetic.ofInt slots.count)
  let taper ← taperFor kind depth width
  let teeth ← (slotIndices joint.isRight slots.count).mapM (inSlot n depth width taper)
  return .teeth teeth slots.limit joint.fingerCount length

/-- The teeth of an edge with a joint. -/
def cut (edge : Option (Edge α)) (joint : Option Joint) (bounds : Option (Box α)) :
    Except Misuse (Cut α) := do
  match edge, joint with
  | some e, some j =>
    match ← j.readKind with
    | none => return .unknownKind e.key j.type
    | some kind =>
      let length ← e.length
      if ← Arithmetic.le minLength length then row e j kind bounds length
      else return .degenerate e.key length
  | _, _ => return .nothing

def Cut.list : Cut α → List (Tooth α)
  | .teeth found .. => found
  | _ => []

/-- The corners of a tooth: start and end of the base, end and start of the outer side. -/
def outline (e : Edge α) (t : Tooth α) : Except Misuse (List (Point α)) := do
  let u ← (← e.direction).unit
  let baseStart ← e.start.add (← u.scale t.startDistance)
  let baseEnd ← e.start.add (← u.scale (← t.endDistance))
  let outerEnd ← (← baseEnd.add t.outwardOffset).add (← u.scale t.taper)
  let outerStart ← (← baseStart.add t.outwardOffset).sub (← u.scale t.taper)
  return [baseStart, baseEnd, outerEnd, outerStart]

/-! ### Teeth of values -/

/-- The notices about the teeth of an edge. -/
def Cut.notices : Cut Value → List Notice
  | .nothing => []
  | .unknownKind key type => [.unknownJoint key type]
  | .degenerate key length => [.degenerateEdge key length]
  | .teeth _ (some limit) asked length => [.countCapped asked limit length]
  | .teeth _ none _ _ => []

/-- The joint that a value is: an object; anything else is none. -/
def jointOf (v : Value) : Except Misuse (Option Joint) :=
  match v with
  | .object _ => (Joint.ofValue v).map some
  | _ => .ok none

/-- The joint that is given: as one, or as a value that may be one. -/
def givenJoint : Joint ⊕ Value → Except Misuse (Option Joint)
  | .inl joint => .ok (some joint)
  | .inr v => jointOf v

/-- The teeth of an edge with what is given as its joint. -/
def synthesize (edge : Option (Edge Value)) (given : Joint ⊕ Value)
    (bounds : Option (Box Value)) : Except Misuse (Cut Value) := do
  cut edge (← givenJoint given) bounds

/-- The tooth in a document. -/
def toValue (t : Tooth Value) : List (String × Value) :=
  [("index", .int t.index), ("startDistance", t.startDistance), ("width", t.width),
    ("depth", t.depth), ("outwardOffset", t.outwardOffset.toValue), ("taper", t.taper)]

end Tooth

end Joinery
