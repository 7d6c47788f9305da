import Joinery.Design.Basic
import Joinery.Joint.Teeth

/-!
# Layouts

The teeth of a whole design: for every edge with a joint, in the order of shapes, paths and places,
its teeth and their corners. Outlines are those of the resolved shapes, so teeth follow the
parameters.
-/
namespace Joinery

/-- An edge with its joint and the teeth of it. -/
structure JointedEdge where
  edge : Edge Value
  joint : Joint
  teeth : List (Tooth Value)
  /-- The corners of each tooth. -/
  outlines : List (List (Point Value))

namespace Design

/-- The teeth of an edge with a joint on a shape within bounds. -/
def jointedEdge (bounds : Box Value) (e : Edge Value) (j : Joint) : Edit JointedEdge := do
  let cut ← Tooth.cut (some e) (some j) (some bounds)
  Edit.notices cut.notices
  let outlines ← (cut.list.mapM (Tooth.outline e) : Except Misuse _)
  return ⟨e, j, cut.list, outlines⟩

/-- The jointed edges of a resolved shape. -/
def jointedEdges (s : Shape) : Edit (List JointedEdge) := do
  let bounds ← s.bounds
  let joints := (← Edit.design).joints
  let edges ← s.edges
  (edges.filterMap fun e => (joints.get e).map (e, ·)).mapM fun (e, j) => jointedEdge bounds e j

/-- The jointed edges of all shapes, or of those with an id. -/
def layout (id : Option Value) : Edit (List JointedEdge) := do
  let d ← Edit.design
  let chosen := d.places.filter fun (_, s) => id.all s.id.equals
  let parts ← chosen.mapM fun (key, s) => do jointedEdges (← resolveAt key s)
  return parts.flatten

end Design

end Joinery
