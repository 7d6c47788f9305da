import Joinery.Geometry.Point
import Joinery.Value.Shown

/-!
# Outlines and edges

An outline is a path through points, closed or not. Its edges are the segments between neighbouring
points and, if it is closed, the one from the last point back to the first. An edge is known by the
shape it belongs to, the path within the shape and its place on the path; under this key joints are
stored. Documents from before shapes had ids use the path and the place alone.
-/
namespace Joinery

structure Path (α : Type) where
  points : List (Point α)
  closed : Value

structure Edge (α : Type) where
  start : Point α
  stop : Point α
  /-- The id of the shape, if it has one. -/
  shape : Value := .null
  path : Value := .int 0
  index : Value := .int 0
  closed : Value := .bool false

namespace Edge

variable {α : Type}

/-- The key without the shape. -/
def localKey (e : Edge α) : String := s!"{e.path.shown}:{e.index.shown}"

/-- Whether the edge belongs to a shape with an id. -/
def isOwned (e : Edge α) : Bool := e.shape.isTruthy

/-- The key under which a joint of the edge is stored. -/
def key (e : Edge α) : String :=
  if e.isOwned then s!"{e.shape.shown}:{e.localKey}" else e.localKey

/-- The same segment on another shape. -/
def withShape (e : Edge α) (shape : Value) : Edge α := { e with shape := shape }

variable [Arithmetic α]

/-- The vector from start to stop. -/
def direction (e : Edge α) : Except Misuse (Point α) := e.stop.sub e.start

def length (e : Edge α) : Except Misuse α := e.start.distance e.stop

def midpoint (e : Edge α) : Except Misuse (Point α) := e.start.midpoint e.stop

end Edge

namespace Path

variable {α : Type}

/-- Edges between neighbouring points, counted from an index. -/
def segments (shape path closed : Value) : Int → List (Point α) → List (Edge α)
  | index, p :: q :: rest =>
    ⟨p, q, shape, path, .int index, closed⟩ :: segments shape path closed (index + 1) (q :: rest)
  | _, _ => []

/-- The edge from the last point back to the first. -/
def closing (shape path : Value) (points : List (Point α)) : List (Edge α) :=
  match points.getLast?, points.head? with
  | some last, some first => [⟨last, first, shape, path, .int (points.length - 1), .bool true⟩]
  | _, _ => []

/-- The edges of an outline. -/
def edges (outline : Path α) (path shape : Value) : List (Edge α) :=
  if outline.points.length < 2 then []
  else
    segments shape path outline.closed 0 outline.points ++
      if outline.closed.isTruthy then closing shape path outline.points else []

/-- The edges of outlines, whose paths are counted from a number. -/
def edgesFrom (shape : Value) : Int → List (Path α) → List (Edge α)
  | _, [] => []
  | path, outline :: rest => outline.edges (.int path) shape ++ edgesFrom shape (path + 1) rest

/-- The edges of the outlines of a shape. -/
def edgesOf (shape : Value) (outlines : List (Path α)) : List (Edge α) := edgesFrom shape 0 outlines

end Path

end Joinery
