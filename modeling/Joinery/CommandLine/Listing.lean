import Joinery.Design.Layout
import Joinery.Json.Writer
import Joinery.Number.Decimal

/-!
# Listings of teeth

The teeth of jointed edges, as a table for people or as a JSON document.
-/
namespace Joinery.CommandLine

/-- A text filled up with spaces in front. -/
def padFront (width : Nat) (s : String) : String :=
  String.ofList (List.replicate (width - s.length) ' ') ++ s

/-- A text filled up with spaces behind. -/
def padBack (width : Nat) (s : String) : String :=
  s ++ String.ofList (List.replicate (width - s.length) ' ')

/-- A measure with three places. -/
def measure (width : Nat) (v : Value) : Except Misuse String := do
  return padFront width ((← v.toDouble).fixedText 3)

/-- The row of a tooth. -/
def toothRow (t : Tooth Value) : Except Misuse String := do
  let start ← measure 9 t.startDistance
  let width ← measure 8 t.width
  let depth ← measure 7 t.depth
  let taper ← measure 6 t.taper
  return s!"  #{padBack 3 (toString t.index)} start={start}  width={width}  depth={depth}  taper={taper}"

/-- The row of an edge. -/
def edgeRow (e : JointedEdge) : Except Misuse String := do
  let length ← measure 0 (← e.edge.length)
  let joint := s!"{e.joint.type.shown}  align={e.joint.align.shown}"
  return s!"{e.edge.key}  {joint}  length={length}  teeth={e.teeth.length}"

/-- The row of an edge and those of its teeth. -/
def edgeRows (e : JointedEdge) : Except Misuse (List String) := do
  return (← edgeRow e) :: (← e.teeth.mapM toothRow)

/-- The rows of edges, up to the first edge that has none. -/
def tableRows : List JointedEdge → List String × Except Misuse Unit
  | [] => ([], .ok ())
  | e :: rest =>
    match edgeRows e with
    | .error cause => ([], .error cause)
    | .ok rows =>
      let (more, result) := tableRows rest
      (rows ++ more, result)

/-- Edges as a document. -/
def listingValue (edges : List JointedEdge) : Value :=
  .list (edges.map fun e =>
    .object [("key", .text e.edge.key), ("joint", e.joint.toValue),
      ("teeth", .list (e.teeth.map fun t => .object t.toValue))])

end Joinery.CommandLine
