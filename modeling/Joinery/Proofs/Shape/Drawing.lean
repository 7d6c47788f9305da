import Joinery.Proofs.Geometry.Normal
import Joinery.Proofs.Number.Angles
import Joinery.Proofs.Number.Combining
import Joinery.Proofs.Shape.Figure

/-!
# Figures that can be drawn

The properties of a figure are kept as they are given, and nothing checks them before the outline is
asked for. A figure has an outline with a box around it just when the properties are numbers that the
corners can be computed from.
-/
namespace Joinery

open Value

/-! ### Boxes -/

namespace Box

end Box

namespace Figure

/-- A figure with an outline to ask for, which leads through points with doubles for coordinates if
it is a path. -/
def IsSketch : Figure → Prop
  | .path course .. => ∃ ps : List (Binary64 × Binary64),
    course = .points (ps.map fun p => ⟨.float p.1, .float p.2⟩)
  | .blank => False
  | _ => True

end Figure

end Joinery
