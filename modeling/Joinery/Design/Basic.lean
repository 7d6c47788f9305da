import Joinery.Joint.Store
import Joinery.Settings.Basic
import Joinery.Shape.Registry

/-!
# Designs

A design holds parameters, shapes and joints. An edit is an operation on a design: it gives an
outcome and the design after it, which may have changed even when the edit fails. Ids of shapes are
unique; a shape without an id is given a new one.
-/
namespace Joinery

structure Design where
  settings : Settings
  parameters : ParameterStore := {}
  joints : JointStore
  /-- Shapes by id, in order of insertion. -/
  shapes : Catalogue Shape := .empty
  registry : ShapeRegistry := .builtin
  functions : Formula.Functions := .builtin

/-- An operation on a design. -/
def Edit (α : Type) : Type := Design → Outcome α × Design

namespace Edit

variable {α β : Type}

protected def pure (a : α) : Edit α := fun d => (Pure.pure a, d)

/-- One edit after the other, unless the first one fails. -/
protected def bind (first : Edit α) (next : α → Edit β) : Edit β := fun d =>
  let (x, d) := first d
  match x.result with
  | .error failure => (⟨.error failure, x.notices⟩, d)
  | .ok a =>
    let (y, d) := next a d
    (⟨y.result, x.notices ++ y.notices⟩, d)

instance : Monad Edit where
  pure := Edit.pure
  bind := Edit.bind

instance : MonadLift Outcome Edit := ⟨fun x d => (x, d)⟩
instance : MonadLift (Except Failure) Edit := ⟨fun x d => (.ofExcept x, d)⟩
instance : MonadLift (Except Misuse) Edit := ⟨fun x d => (liftM x, d)⟩

/-- The design as it is. -/
def design : Edit Design := fun d => (Pure.pure d, d)

def modify (change : Design → Design) : Edit Unit := fun d => (Pure.pure (), change d)

def fail (failure : Failure) : Edit α := fun d => (.fail failure, d)

/-- Gives notices. -/
def notices (ns : List Notice) : Edit Unit := fun d => (⟨.ok (), ns⟩, d)

end Edit

namespace Design

/-- The design without contents. -/
def empty (settings : Settings) : Design where
  settings := settings
  joints := { defaults := settings.joints }

/-- The shapes in order. -/
def all (d : Design) : List Shape := d.shapes.values

/-- The shapes with the keys under which they are stored. -/
def places (d : Design) : List (Value.Key × Shape) := d.shapes.slots

/-- The ids under which shapes are found. -/
def ids (d : Design) : Value := .list d.shapes.keys

/-- What the bindings of a design are resolved against. -/
def environment (d : Design) : Environment := ⟨some d.parameters, some d.functions⟩

/-! ### Shapes -/

/-- Adds a shape. -/
def addShape (s : Shape) : Edit Shape := do
  let d ← Edit.design
  let (id, registry) := d.registry.idOr s.type s.id d.ids
  Edit.modify fun d => { d with registry := registry }
  let id ← id
  if ← d.shapes.contains id then Edit.fail (.shape (.duplicate id.shown))
  else
    let s := { s with id := id }
    let shapes ← d.shapes.insert id s
    Edit.modify fun d => { d with shapes := shapes }
    return s

/-- Names that no option of a new shape has, since the design itself gives what they stand for. -/
def reserved : List String := ["self", "shape_type", "existing_ids"]

/-- Adds a new shape; the id may be among the options, the ids in use may not. -/
def createShape (word : Value) (options : List (String × Value)) : Edit Shape := do
  if let some (name, _) := options.find? fun o => reserved.contains o.1 then
    Edit.fail (.misuse (.unknownField name))
  let d ← Edit.design
  let id := (options.lookup "id").getD .null
  let (made, registry) := d.registry.create word id d.ids (options.filter fun o => o.1 ≠ "id")
  Edit.modify fun d => { d with registry := registry }
  addShape (← made)

/-- The shape with an id. -/
def find? (d : Design) (id : Value) : Except Misuse (Option Shape) := d.shapes.find? id

/-- Removes the shape under a key, if there is one, and then the joints of its edges, which are found
by its id. -/
def removeAt (key : Value.Key) (id : Value) : Edit (Option Shape) := do
  let d ← Edit.design
  match d.shapes.at? key with
  | none => return none
  | some s =>
    Edit.modify fun d => { d with shapes := d.shapes.eraseAt key }
    let step ← d.joints.removeShape id
    Edit.modify fun d => { d with joints := step.store }
    Edit.notices (JointStore.removalNotices step.answer id)
    return some s

/-- Removes the shape with an id, if it is there; a design without shapes is not even asked. -/
def removeShape (id : Value) : Edit (Option Shape) := do
  let d ← Edit.design
  if d.shapes.size = 0 then return none else removeAt (← id.key) id

/-- Changes the shape with an id; none when there is no such shape. -/
def changeShape (id : Value) (change : Shape → Except Failure Shape) : Edit (Option Shape) := do
  let d ← Edit.design
  let key ← id.key
  match d.shapes.at? key with
  | none => return none
  | some s =>
    let s ← change s
    Edit.modify fun d => { d with shapes := d.shapes.modify key fun _ => s }
    return some s

/-! ### Resolving -/

/-- Resolves the shape under a key, in which traces are left. -/
def resolveAt (key : Value.Key) (s : Shape) : Edit Shape := do
  let d ← Edit.design
  let done := s.resolve d.environment
  Edit.modify fun d => { d with shapes := d.shapes.modify key fun _ => done.shape }
  done.outcome

/-- Resolves the shape with an id. -/
def resolve (id : Value) : Edit (Option Shape) := do
  let d ← Edit.design
  let key ← id.key
  match d.shapes.at? key with
  | none => return none
  | some s => return some (← resolveAt key s)

/-- Resolves all shapes in order. -/
def resolveAll : Edit (List Shape) := do
  let d ← Edit.design
  d.places.mapM fun (key, s) => resolveAt key s

/-! ### Edges and joints -/

/-- The edges of the resolved shape with an id; none when there is no such shape. -/
def edges (id : Value) : Edit (List (Edge Value)) := do
  match ← resolve id with
  | some s => s.edges
  | none => return []

/-- The edge with a path and a place on the shape with an id. -/
def findEdge (id path index : Value) : Edit (Option (Edge Value)) := do
  return (← edges id).find? fun e => e.path.equals path && e.index.equals index

/-- Performs an operation on the joints. -/
def onJoints {α : Type} (op : JointStore → Except Failure (JointStep α)) : Edit α := do
  let step ← op (← Edit.design).joints
  Edit.modify fun d => { d with joints := step.store }
  return step.answer

/-- Assigns a joint to an edge; without an edge nothing happens. -/
def assign (e : Option (Edge Value)) (type : Value) (given : List (String × Value)) :
    Edit (Option Joint) :=
  onJoints fun joints => joints.assign e type given

/-- Removes the joint of an edge, which has to be there. -/
def unjoin (e : Option (Edge Value)) : Edit Bool := do
  match e with
  | some e => onJoints fun joints => .ok (joints.remove e)
  | none => Edit.fail (.misuse (.notObject .null))

/-- Turns the joint of an edge to the other alignment. -/
def flip (e : Option (Edge Value)) : Edit (Option Joint) := do
  match e with
  | some e => onJoints fun joints => .ok (joints.flip e)
  | none => return none

end Design

end Joinery
