import Joinery.Arithmetic

/-!
# Points

Points of the plane, which also serve as vectors. All operations go coordinate by coordinate, the
first one first.
-/
namespace Joinery

structure Point (α : Type) where
  x : α
  y : α

namespace Point

variable {α : Type} [Arithmetic α]

def add (p q : Point α) : Except Misuse (Point α) := do
  return ⟨← Arithmetic.add p.x q.x, ← Arithmetic.add p.y q.y⟩

def sub (p q : Point α) : Except Misuse (Point α) := do
  return ⟨← Arithmetic.sub p.x q.x, ← Arithmetic.sub p.y q.y⟩

/-- The vector stretched by a factor. -/
def scale (p : Point α) (k : α) : Except Misuse (Point α) := do
  return ⟨← Arithmetic.mul p.x k, ← Arithmetic.mul p.y k⟩

def neg (p : Point α) : Except Misuse (Point α) := do
  return ⟨← Arithmetic.neg p.x, ← Arithmetic.neg p.y⟩

/-- The scalar product. -/
def dot (p q : Point α) : Except Misuse α := do
  Arithmetic.add (← Arithmetic.mul p.x q.x) (← Arithmetic.mul p.y q.y)

def length (p : Point α) : Except Misuse α := Arithmetic.hypot p.x p.y

def distance (p q : Point α) : Except Misuse α := do (← q.sub p).length

/-- The point halfway between two points. -/
def midpoint (p q : Point α) : Except Misuse (Point α) := do
  (← p.add q).scale (Arithmetic.decimal 5 1)

/-- The vector of length one in the same direction. -/
def unit (p : Point α) : Except Misuse (Point α) := do
  p.scale (← Arithmetic.div (Arithmetic.decimal 1 0) (← p.length))

/-- The vector turned a quarter to the left. -/
def leftTurn (p : Point α) : Except Misuse (Point α) := do
  return ⟨← Arithmetic.neg p.y, p.x⟩

/-! ### Points of values -/

def equals (p q : Point Value) : Bool := p.x.equals q.x && p.y.equals q.y

/-- The item of a list, or the character of a text, at a place. -/
def itemAt (v : Value) (place : Nat) : Except Misuse Value := do
  match v with
  | .list _ | .text _ =>
    match (← v.items)[place]? with
    | some item => return item
    | none => throw .tooShort
  | _ => throw (.notIndexed v.kind)

/-- The point that a document gives: an object with `x` and `y`, or a list of two coordinates. -/
def ofValue (v : Value) : Except Misuse (Point Value) := do
  match v with
  | .object _ =>
    let x ← (← v.require "x").toDouble
    let y ← (← v.require "y").toDouble
    return ⟨.float x, .float y⟩
  | _ =>
    let x ← (← itemAt v 0).toDouble
    let y ← (← itemAt v 1).toDouble
    return ⟨.float x, .float y⟩

/-- The point in a document. -/
def toValue (p : Point Value) : Value := .object [("x", p.x), ("y", p.y)]

end Point

end Joinery
