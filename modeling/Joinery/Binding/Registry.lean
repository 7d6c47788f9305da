import Joinery.Binding.Basic
import Joinery.Catalogue

/-!
# Registries of bindings

Bindings in documents carry the word for their sort, and a registry knows how to make a binding of
each sort. Chains are made by the registry itself, so what they wrap may be of any sort registered
there. Handlers have a registry of their own.
-/
namespace Joinery

/-- The kinds of handlers by what documents call them, which is a word unless another key has been
registered. -/
structure HandlerRegistry where
  kinds : Catalogue Handler.Kind

namespace HandlerRegistry

def builtin : HandlerRegistry :=
  ⟨.ofTexts (Handler.Kind.all.map fun kind => (kind.label, kind))⟩

def register (r : HandlerRegistry) (word : Value) (kind : Handler.Kind) :
    Except Misuse HandlerRegistry := do
  return ⟨← r.kinds.insert word kind⟩

def isRegistered (r : HandlerRegistry) (word : Value) : Except Misuse Bool := r.kinds.contains word

/-- The handler that a document describes. -/
def create (r : HandlerRegistry) (v : Value) : Except Failure Handler := do
  let word ← v.get "type"
  match ← r.kinds.find? word with
  | some kind => Handler.ofValue kind v
  | none => throw (.binding (.unknownHandler word.shown (← r.kinds.textKeys)))

end HandlerRegistry

namespace Binding

/-- How a binding of a sort is made from a document. -/
inductive Factory where
  | plain (make : Value → Except Failure Binding)
  /-- A chain; the registry makes what it wraps. -/
  | chain

/-- A constant. -/
def literalOf (v : Value) : Except Failure Binding := do
  let value ← v.getD "value" (.int 0)
  match value.toDouble with
  | .ok x => return .literal (.float x)
  | .error .outOfRange => throw (.misuse .outOfRange)
  | .error _ => throw (.binding (.literalNotNumber value.quoted))

/-- A parameter by its id. -/
def parameterOf (v : Value) : Except Failure Binding := do
  let id ← v.get "parameterId"
  if id.isTruthy then return .parameter id else throw (.binding .parameterMissing)

/-- A formula by its text. -/
def expressionOf (v : Value) : Except Failure Binding := do
  match ← v.get "expression" with
  | .text text =>
    if text.isEmpty then throw (.binding .expressionMissing)
    else return .expression (.text text) none
  | _ => throw (.binding .expressionMissing)

end Binding

structure BindingRegistry where
  factories : Catalogue Binding.Factory
  handlers : HandlerRegistry

namespace BindingRegistry

def builtin : BindingRegistry where
  factories := .ofTexts
    [("literal", .plain Binding.literalOf), ("parameter", .plain Binding.parameterOf),
      ("expression", .plain Binding.expressionOf), ("processed", .chain)]
  handlers := .builtin

/-- Registers a sort; the factory may turn out to be none. -/
def register (r : BindingRegistry) (word : Value) (factory : Option Binding.Factory) :
    Except Failure BindingRegistry :=
  if !word.isTruthy then .error (.binding .emptyType)
  else
    match factory with
    | none => .error (.binding (.notCallable word.shown))
    | some factory => do return { r with factories := ← r.factories.insert word factory }

/-- Removes a sort; answers whether it was there. -/
def unregister (r : BindingRegistry) (word : Value) : Except Misuse (Bool × BindingRegistry) := do
  let factories ← r.factories.erase word
  return (factories.size < r.factories.size, { r with factories := factories })

def isRegistered (r : BindingRegistry) (word : Value) : Except Misuse Bool :=
  r.factories.contains word

/-- The registered sorts in order. -/
def sorts (r : BindingRegistry) : List Value := r.factories.keys

/-- The factory for a document. -/
def factoryFor (r : BindingRegistry) (v : Value) : Except Failure Binding.Factory := do
  match v with
  | .object fields =>
    match fields.lookup "type" with
    | none => throw (.binding .notTyped)
    | some word =>
      match ← r.factories.find? word with
      | some factory => return factory
      | none => throw (.binding (.unknownType word.shown (← r.factories.textKeys)))
  | _ => throw (.binding .notTyped)

/-- The handlers that a document lists; no list counts as an empty one. -/
def handlersOf (r : BindingRegistry) (v : Value) : Except Failure (List Handler) := do
  (← (← v.get "handlers").itemsOrNone).mapM r.handlers.create

theorem sizeOf_lookup_lt {fields : List (String × Value)} {name : String} {v : Value}
    (h : fields.lookup name = some v) : sizeOf v < sizeOf (Value.object fields) := by
  induction fields with
  | nil => simp at h
  | cons field rest ih =>
    obtain ⟨key, value⟩ := field
    rw [List.lookup_cons] at h
    split at h
    · obtain rfl := Option.some.inj h
      simp
      omega
    · have := ih h
      simp at this ⊢
      omega

/-- The binding that a document describes. What a chain wraps is made before its handlers. -/
def create (r : BindingRegistry) (v : Value) : Except Failure Binding :=
  match r.factoryFor v with
  | .error failure => .error failure
  | .ok (.plain make) => make v
  | .ok .chain =>
    match v with
    | .object fields =>
      match _h : fields.lookup "wrappedBinding" with
      | some (.object wrapped) =>
        match create r (.object wrapped) with
        | .error failure => .error failure
        | .ok inner => (r.handlersOf (.object fields)).map fun hs => .processed inner hs none
      | _ => .error (.binding .wrappedMissing)
    | _ => .error (.binding .notTyped)
termination_by sizeOf v
decreasing_by exact sizeOf_lookup_lt _h

end BindingRegistry

end Joinery
