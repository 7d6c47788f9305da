import Joinery.Design.Basic
import Joinery.Json.Reader
import Joinery.Json.Writer

/-!
# Design documents

A design in a document has a list of parameters, a list of shapes and a list of joints with the keys
of their edges. Documents are JSON texts with indentation.
-/
namespace Joinery.Design

/-- The design in a document. -/
def toValue (d : Design) : Except Misuse Value := do
  let parameters ← d.parameters.all.mapM Parameter.toValue
  let shapes ← d.all.mapM Shape.toValue
  return .object [("parameters", .list parameters), ("shapes", .list shapes),
    ("edgeJoinery", d.joints.toValue)]

/-- The text of a document. -/
def toText (d : Design) : Except Misuse String := do return Json.indented (← d.toValue)

/-- Replaces the joints by those of a document. -/
def loadJoints (entries : Value) : Edit Unit := do
  let loaded := (← Edit.design).joints.load entries
  Edit.modify fun d => { d with joints := loaded.store }
  Edit.notices loaded.notices
  loaded.result

/-- Adds the contents of a document to a design that has parameters only. -/
def fill (shapes : List Value) (joints : Value) : Edit Unit := do
  for v in shapes do
    let _ ← addShape (← (← Edit.design).registry.ofValue v)
  loadJoints joints
  let d ← Edit.design
  Edit.notices [.designLoaded d.parameters.size d.shapes.size d.joints.size]

/-- The design that a document describes. -/
def ofValue (settings : Settings) (v : Value) : Outcome Design := do
  match v with
  | .object fields =>
    match (fields.lookup "shapes").getD (.list []) with
    | .list shapes =>
      let parameters ← ((fields.lookup "parameters").getD .null).itemsOrNone
      let store ← (do ParameterStore.ofList (← parameters.mapM Parameter.ofValue) :
        Except Failure ParameterStore)
      let joints := (fields.lookup "edgeJoinery").getD .null
      let (filled, d) := fill shapes joints { empty settings with parameters := store }
      ⟨filled.result.map fun _ => d, filled.notices⟩
    | _ => .fail (.shape .notDesign)
  | _ => .fail (.shape .notDesign)

end Joinery.Design
