import Joinery.Geometry.Point

/-!
# Boxes

A box with sides along the axes, given by its least corner and its size. The box around no points is
the empty one at the origin.
-/
namespace Joinery

structure Box (α : Type) where
  x : α
  y : α
  width : α
  height : α

namespace Box

variable {α : Type} [Arithmetic α]

def center (b : Box α) : Except Misuse (Point α) := do
  let x ← Arithmetic.add b.x (← Arithmetic.div b.width (Arithmetic.decimal 2 0))
  let y ← Arithmetic.add b.y (← Arithmetic.div b.height (Arithmetic.decimal 2 0))
  return ⟨x, y⟩

/-- The smallest box around points. -/
def around : List (Point α) → Except Misuse (Box α)
  | [] =>
    let zero : α := Arithmetic.decimal 0 0
    .ok ⟨zero, zero, zero, zero⟩
  | p :: rest => do
    let xs := rest.map Point.x
    let ys := rest.map Point.y
    let left ← Arithmetic.leastOf p.x xs
    let bottom ← Arithmetic.leastOf p.y ys
    let width ← Arithmetic.sub (← Arithmetic.greatestOf p.x xs) (← Arithmetic.leastOf p.x xs)
    let height ← Arithmetic.sub (← Arithmetic.greatestOf p.y ys) (← Arithmetic.leastOf p.y ys)
    return ⟨left, bottom, width, height⟩

/-- The box in a document. -/
def toValue (b : Box Value) : Value :=
  .object [("x", b.x), ("y", b.y), ("width", b.width), ("height", b.height)]

end Box

end Joinery
