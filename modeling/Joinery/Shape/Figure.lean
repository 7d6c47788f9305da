import Joinery.Failure
import Joinery.Geometry.Box
import Joinery.Geometry.Edge
import Joinery.Number.Circular

/-!
# Figures

What a shape looks like: a rectangle, a regular polygon, a free path, or nothing yet. Some properties
of a figure can be bound. Numbers are kept as they are given, save the sides of a polygon, of which
there are at least three.
-/
namespace Joinery

/-- The kinds of figures. -/
inductive FigureKind where
  | rectangle | polygon | path | blank
  deriving DecidableEq, Repr

/-- The word for a kind of figure in documents. -/
def FigureKind.label : FigureKind → String
  | .rectangle => "rectangle"
  | .polygon => "polygon"
  | .path => "path"
  | .blank => "shape"

/-- What a path leads through. -/
inductive Course where
  | points (points : List (Point Value))
  /-- A value that was set in the place of points. -/
  | other (value : Value)

namespace Course

/-- The points, moved by an offset; a value in their place has none. -/
def moved (offset : Point Value) : Course → Except Misuse (List (Point Value))
  | .points ps => ps.mapM fun p => p.add offset
  | .other value => do
    match ← value.items with
    | [] => return []
    | v :: _ => throw (.incompatible v.kind .object)

/-- The points in a document. -/
def toValue : Course → Except Misuse Value
  | .points ps => .ok (.list (ps.map Point.toValue))
  | .other value => do
    match ← value.items with
    | [] => return .list []
    | v :: _ => throw (.notObject v.kind)

end Course

inductive Figure where
  /-- With a corner at `(x, y)` and sides along the axes. -/
  | rectangle (x y width height : Value)
  /-- A regular polygon whose first corner is straight above the center. -/
  | polygon (centerX centerY radius sides : Value)
  /-- A path through points, moved by an offset. -/
  | path (course : Course) (closed offsetX offsetY : Value)
  | blank

namespace Figure

def kind : Figure → FigureKind
  | .rectangle .. => .rectangle
  | .polygon .. => .polygon
  | .path .. => .path
  | .blank => .blank

/-! ### Properties -/

/-- The names of the properties that can be bound. -/
def bindable : FigureKind → List String
  | .rectangle => ["x", "y", "width", "height"]
  | .polygon => ["center_x", "center_y", "radius", "sides"]
  | .path => ["offset_x", "offset_y"]
  | .blank => []

/-- The properties that can be bound, with their values. -/
def properties : Figure → List (String × Value)
  | .rectangle x y width height => [("x", x), ("y", y), ("width", width), ("height", height)]
  | .polygon centerX centerY radius sides =>
    [("center_x", centerX), ("center_y", centerY), ("radius", radius), ("sides", sides)]
  | .path _ _ offsetX offsetY => [("offset_x", offsetX), ("offset_y", offsetY)]
  | .blank => []

/-- All properties that hold a value. -/
def attributes : Figure → List (String × Value)
  | f@(.path _ closed _ _) => ("closed", closed) :: f.properties
  | f => f.properties

/-- The figure with another value of one of its properties; it is taken as it is. None when the
figure has no such property. -/
def withProperty? (f : Figure) (name : String) (v : Value) : Option Figure :=
  match f, name with
  | .rectangle _ y width height, "x" => some (.rectangle v y width height)
  | .rectangle x _ width height, "y" => some (.rectangle x v width height)
  | .rectangle x y _ height, "width" => some (.rectangle x y v height)
  | .rectangle x y width _, "height" => some (.rectangle x y width v)
  | .polygon _ centerY radius sides, "center_x" => some (.polygon v centerY radius sides)
  | .polygon centerX _ radius sides, "center_y" => some (.polygon centerX v radius sides)
  | .polygon centerX centerY _ sides, "radius" => some (.polygon centerX centerY v sides)
  | .polygon centerX centerY radius _, "sides" => some (.polygon centerX centerY radius v)
  | .path _ closed offsetX offsetY, "points" => some (.path (.other v) closed offsetX offsetY)
  | .path course _ offsetX offsetY, "closed" => some (.path course v offsetX offsetY)
  | .path course closed _ offsetY, "offset_x" => some (.path course closed v offsetY)
  | .path course closed offsetX _, "offset_y" => some (.path course closed offsetX v)
  | _, _ => none

/-- The names of all options of a kind of figure, with their defaults. -/
def defaults : FigureKind → List (String × Value)
  | .rectangle => [("x", .float 0), ("y", .float 0), ("width", .float 40), ("height", .float 40)]
  | .polygon =>
    [("center_x", .float 0), ("center_y", .float 0), ("radius", .float 20), ("sides", .int 5)]
  | .path =>
    [("points", .list []), ("closed", .bool false), ("offset_x", .float 0), ("offset_y", .float 0)]
  | .blank => []

/-- How many sides a polygon has whose property is `v`: the whole part, but at least three. -/
def sideCount (v : Value) : Except Misuse Int := do
  return max 3 (← Arithmetic.floor v)

/-- The figure of a kind with given options. -/
def ofOptions (kind : FigureKind) (options : List (String × Value)) : Except Misuse Figure := do
  let option ← Value.settings (defaults kind) options
  match kind with
  | .rectangle => return .rectangle (option "x") (option "y") (option "width") (option "height")
  | .polygon =>
    return .polygon (option "center_x") (option "center_y") (option "radius")
      (.int (← sideCount (option "sides")))
  | .path =>
    let points ← (← (option "points").items).mapM Point.ofValue
    return .path (.points points) (option "closed") (option "offset_x") (option "offset_y")
  | .blank => return .blank

/-! ### Outlines -/

/-- The corners of a rectangle, around it from `(x, y)` on. -/
def rectangleCorners {α : Type} [Arithmetic α] (x y width height : α) :
    Except Misuse (List (Point α)) := do
  let right ← Arithmetic.add x width
  let top ← Arithmetic.add y height
  return [⟨x, y⟩, ⟨right, y⟩, ⟨right, top⟩, ⟨x, top⟩]

def pi : Binary64 := 3.141592653589793

/-- The corner of a polygon in the direction of an angle. -/
def polygonCorner (centerX centerY radius : Value) (angle : Binary64) :
    Except Misuse (Point Value) := do
  match Binary64.cos? angle, Binary64.sin? angle with
  | some cos, some sin =>
    let x ← Arithmetic.add centerX (← Arithmetic.mul radius (.float cos))
    let y ← Arithmetic.add centerY (← Arithmetic.mul radius (.float sin))
    return ⟨x, y⟩
  | _, _ => throw .undefined

/-- The corners of a regular polygon in equal steps of the angle. -/
def polygonCorners (centerX centerY radius sides : Value) : Except Misuse (List (Point Value)) := do
  let count ← sideCount sides
  let turn := pi * 2
  let step := turn / (← (Number.int count).toDouble)
  let start := -pi / 2
  (List.range count.toNat).mapM fun (i : Nat) =>
    polygonCorner centerX centerY radius (start + Binary64.ofInt i * step)

/-- The outlines of a figure; a blank one has none to ask for. -/
def outlines : Figure → Except Failure (List (Path Value))
  | .rectangle x y width height => do
    return [⟨← rectangleCorners x y width height, .bool true⟩]
  | .polygon centerX centerY radius sides => do
    return [⟨← polygonCorners centerX centerY radius sides, .bool true⟩]
  | .path course closed offsetX offsetY => do
    return [⟨← course.moved ⟨offsetX, offsetY⟩, closed⟩]
  | .blank => throw (.noOutline "Shape")

end Figure

end Joinery
