import Joinery.Shape.Bindings
import Joinery.Shape.Figure
import Joinery.Shape.Name

/-!
# Shapes

A shape is a figure with an id, some of whose properties are bound. Resolving gives a shape whose
bound properties hold the values of their bindings; the shape itself keeps its own values, and only
its bindings may keep traces of being resolved. In documents a bound property is written with its
binding alone. Attributes can be set by hand to any value: one that bears the name of an operation
hides it, and the operation then fails.
-/
namespace Joinery

structure Shape where
  id : Value
  figure : Figure
  bindings : Bindings := .empty
  /-- The attributes that were set by hand and are neither properties of the figure nor parts of
  every shape. -/
  extras : Table String Value := Table.empty

/-- What resolving a shape leaves: a resolved shape or a failure, and the shape with its traces. -/
structure ShapeResolution where
  outcome : Outcome Shape
  shape : Shape

namespace Shape

/-! ### Attributes -/

/-- The word for the kind of shape. -/
def type (s : Shape) : Value := (s.extras.find? "type").getD (.text s.figure.kind.label)

/-- The names of the properties that can be bound. -/
def bindable (s : Shape) : Value :=
  (s.extras.find? "bindable").getD (.list ((Figure.bindable s.figure.kind).map .text))

/-- The value of an attribute; there have to be a name and an attribute. -/
def read (s : Shape) (name : Value) : Except Misuse Value := do
  let name ← name.asText
  if name = "id" then return s.id
  match (s.figure.attributes.lookup name).or (s.extras.find? name) with
  | some v => return v
  | none => throw (.notObject .object)

/-- Sets an attribute. -/
def withAttribute (s : Shape) (name : String) (v : Value) : Shape :=
  if name = "id" then { s with id := v }
  else if name = "bindings" then { s with bindings := .ofValue v }
  else
    match s.figure.withProperty? name v with
    | some figure => { s with figure := figure }
    | none => { s with extras := s.extras.insert name v }

/-- The properties that can be bound, with their values. -/
def properties (s : Shape) : Except Misuse (List (String × Value)) := do
  (← s.bindable.items).mapM fun name => do return (← name.asText, ← s.read name)

/-- Checks that no attribute hides an operation. -/
def perform (s : Shape) (operation : String) : Except Misuse Unit :=
  match s.extras.find? operation with
  | some v => .error (.notCallable v.kind)
  | none => .ok ()

/-! ### Bindings -/

/-- Binds a property. -/
def bind (s : Shape) (name : Value) (b : Binding) : Except Failure Shape := do
  s.perform "set_binding"
  if ← s.bindable.holds name then return { s with bindings := ← s.bindings.bind name b }
  else throw (.shape (.notBindable name.shown s.type.shown))

/-- Gives a property back its own value. -/
def unbind (s : Shape) (name : Value) : Except Misuse Shape := do
  s.perform "clear_binding"
  return { s with bindings := ← s.bindings.erase name }

def isBound (s : Shape) (name : Value) : Except Misuse Bool := s.bindings.holds name

/-! ### Resolving -/

/-- Resolves the bindings of properties, one after the other, into a shape. -/
def resolveProperties (env : Environment) : List Value → Shape → Shape → Outcome Shape × Shape
  | [], s, resolved => (pure resolved, s)
  | name :: rest, s, resolved =>
    match s.bindings.find? name with
    | .error cause => (.fail (.misuse cause), s)
    | .ok none =>
      match s.read name with
      | .error cause => (.fail (.misuse cause), s)
      | .ok v => resolveProperties env rest s (resolved.withAttribute name.shown v)
    | .ok (some b) =>
      let done := b.resolve env
      let s := { s with bindings := s.bindings.update name done.binding }
      match done.outcome.result with
      | .error failure => (⟨.error failure, done.outcome.notices⟩, s)
      | .ok v =>
        let (later, s) := resolveProperties env rest s (resolved.withAttribute name.shown v)
        (⟨later.result, done.outcome.notices ++ later.notices⟩, s)

/-- The properties that resolving goes through. -/
def resolvable (s : Shape) : Except Misuse (List Value) := do
  s.perform "clone"
  s.perform "get_bindable_properties"
  s.bindable.items

/-- Resolves a shape. -/
def resolve (s : Shape) (env : Environment) : ShapeResolution :=
  match s.perform "resolve" >>= fun _ => s.resolvable with
  | .error cause => ⟨.fail (.misuse cause), s⟩
  | .ok names =>
    let (resolved, traced) := resolveProperties env names s s
    ⟨resolved, traced⟩

/-- Resolves a shape against a store, which a shape without bindings does not need. -/
def resolveWith (s : Shape) (store : Option ParameterStore) : ShapeResolution :=
  match store with
  | some store => s.resolve ⟨some store, some .builtin⟩
  | none =>
    if s.bindings.isTruthy then
      let id := (s.id.orElse (.text "<unsaved>")).shown
      ⟨.fail (.binding (.shapeNeedsStore s.type.shown id)), s⟩
    else s.resolve ⟨none, none⟩

/-! ### Geometry -/

def outlines (s : Shape) : Except Failure (List (Path Value)) := do
  s.perform "paths"
  if s.figure.kind = .polygon then s.perform "vertices"
  s.figure.outlines

/-- The box around the outlines of a shape. -/
def bounds (s : Shape) : Except Failure (Box Value) := do
  s.perform "get_bounds"
  Box.around ((← s.outlines).flatMap Path.points)

/-- The edges of the outlines of a shape. -/
def edges (s : Shape) : Except Failure (List (Edge Value)) := do
  s.perform "edges"
  return Path.edgesOf (s.id.orElse .null) (← s.outlines)

/-! ### Documents -/

/-- The properties of a shape that no binding can give, in a document. -/
def extraFields (s : Shape) : Except Misuse (List (String × Value)) := do
  s.perform "_extra_json"
  match s.figure with
  | .path course closed _ _ => return [("points", ← course.toValue), ("closed", closed)]
  | _ => return []

/-- The properties of a shape that are not bound. -/
def ownFields (s : Shape) : Except Misuse (List (String × Value)) := do
  (← s.bindable.items).filterMapM fun name => do
    if ← s.isBound name then return none
    let v ← s.read name
    return some (camel name.shown, v)

/-- The shape in a document. -/
def toValue (s : Shape) : Except Misuse Value := do
  s.perform "to_json"
  let bindings ← (← s.bindings.entries).mapM fun (name, b) => do
    return (camel (← name.asWord), ← b.toValue)
  return .object ([("id", s.id), ("type", s.type), ("bindings", .object bindings)] ++
    (← s.ownFields) ++ (← s.extraFields))

/-- The options among known names that the fields of a document give, the last one first; null gives
none. -/
def optionsAmong (known : List String) (fields : List (String × Value)) : List (String × Value) :=
  let options := fields.filterMap fun (name, v) =>
    let name := snake name
    if known.contains name && !v.isNull then some (name, v) else none
  options.reverse

/-- The options of a kind of figure that the fields of a document give. -/
def optionsOf (kind : FigureKind) (fields : List (String × Value)) : List (String × Value) :=
  optionsAmong ((Figure.defaults kind).map Prod.fst) fields

/-- A shape of a kind with given options, among which its bindings may be. -/
def ofOptions (kind : FigureKind) (id : Value) (options : List (String × Value)) :
    Except Misuse Shape := do
  let figure ← Figure.ofOptions kind (options.filter fun option => option.1 ≠ "bindings")
  return { id, figure, bindings := ((options.lookup "bindings").map .ofValue).getD .empty }

/-- Binds the properties that a document lists. -/
def bindAll (registry : BindingRegistry) (s : Shape) :
    List (String × Value) → Except Failure Shape
  | [] => .ok s
  | (name, v) :: rest => do
    let b ← registry.create v
    bindAll registry (← s.bind (.text (snake name)) b) rest

/-- The fields of a value that may be absent. -/
def fieldsOrNone (v : Value) : Except Misuse (List (String × Value)) :=
  if v.isTruthy then
    match v with
    | .object fields => .ok fields
    | _ => .error (.notObject v.kind)
  else .ok []

/-- The shape of a kind that the fields of a document describe. -/
def ofFields (kind : FigureKind) (registry : BindingRegistry) (fields : List (String × Value)) :
    Except Failure Shape := do
  let figure ← Figure.ofOptions kind (optionsOf kind fields)
  let id := (fields.lookup "id").getD (.text "")
  bindAll registry { id, figure } (← fieldsOrNone ((fields.lookup "bindings").getD .null))

end Shape

end Joinery
