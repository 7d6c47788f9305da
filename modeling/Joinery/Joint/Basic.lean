import Joinery.Number.Basic
import Joinery.Text.Blank
import Joinery.Text.Case
import Joinery.Value.Shown

/-!
# Joints

A joint is what an edge is fitted with: a row of teeth of some kind. Its fields are kept as they are
given. The kind is found by its name in any case; older names for finger joints are understood. The
alignment says which of two mating edges owns the first tooth.
-/
namespace Joinery

inductive JointKind where
  | finger | dovetail
  deriving DecidableEq, Repr

namespace JointKind

def label : JointKind → String
  | .finger => "finger_joint"
  | .dovetail => "dovetail"

def all : List JointKind := [.finger, .dovetail]

/-- The kind of a name in lower case. -/
def ofName? : String → Option JointKind
  | "finger_joint" | "male" | "finger_male" => some .finger
  | "dovetail" => some .dovetail
  | _ => none

/-- The kind that a value names; blanks around the name and its case do not matter. -/
def ofValue? (v : Value) : Option JointKind :=
  let name := (v.orElse (.text "")).shown
  ofName? (String.ofList (Text.lowerChars (Text.strip name.toList)))

end JointKind

/-- Which of two mating edges owns the first tooth. -/
inductive Alignment where
  | left | right
  deriving DecidableEq, Repr

namespace Alignment

def label : Alignment → String
  | .left => "left"
  | .right => "right"

def all : List Alignment := [.left, .right]

end Alignment

structure Joint where
  /-- The name of the kind. -/
  type : Value
  thickness : Value
  fingerCount : Value
  /-- Edges aligned to the right have their first tooth in the second slot. -/
  align : Value

namespace Joint

def kind? (j : Joint) : Option JointKind := JointKind.ofValue? j.type

/-- The kind, found from the text of the type, which has to be written out first. -/
def readKind (j : Joint) : Except Misuse (Option JointKind) :=
  if j.type.isWritable then .ok j.kind? else .error .tooLongToWrite

/-- Whether the first tooth is in the second slot. -/
def isRight (j : Joint) : Bool := j.align.equals (.text "right")

/-- The joint of the mating edge. -/
def flipped (j : Joint) : Joint :=
  { j with align := .text (if j.isRight then "left" else "right") }

/-- The joint with an alignment, to the left if it had none. -/
def aligned (j : Joint) : Joint := { j with align := j.align.orElse (.text "left") }

/-- Equal field by field; NaN counts as equal to itself. -/
def same (a b : Joint) : Bool :=
  a.type.same b.type && a.thickness.same b.thickness &&
    a.fingerCount.same b.fingerCount && a.align.same b.align

def defaults : List (String × Value) :=
  [("type", .text "finger_joint"), ("thickness_mm", .float 3), ("finger_count", .int 6),
    ("align", .text "left")]

/-- A joint whose fields are kept as they are given. -/
def ofFields (fields : List (String × Value)) : Except Misuse Joint := do
  let field ← Value.settings defaults fields
  return ⟨field "type", field "thickness_mm", field "finger_count", field "align"⟩

/-- The joint in a document. -/
def toFields (j : Joint) : List (String × Value) :=
  [("type", j.type), ("thicknessMm", j.thickness), ("fingerCount", j.fingerCount),
    ("align", j.aligned.align)]

def toValue (j : Joint) : Value := .object j.toFields

/-- The joint that a document gives. -/
def ofValue (v : Value) : Except Misuse Joint := do
  let type ← v.get "type"
  let thickness ← v.get "thicknessMm"
  let fingerCount ← v.get "fingerCount"
  let align ← v.get "align"
  return ⟨type, thickness, fingerCount, align.orElse (.text "left")⟩

end Joint

/-- What a joint is given when nothing else is said. -/
structure JointDefaults where
  thickness : Number := .float 3
  fingerCount : Int := 6
  align : Alignment := .left
  kind : JointKind := .finger

end Joinery
