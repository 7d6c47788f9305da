import Joinery.Catalogue
import Joinery.Parameter.Basic
import Joinery.Value.Shown

/-!
# Parameter stores

The parameters of a design by id, in order of insertion, and the listeners that are told of changes.
What a listener does is an action: it reads parameters, sets them, makes listeners come and go, and
may go by what was noted down when it or another one was told something earlier.
-/
namespace Joinery

/-- A change of a parameter's value, told to one listener. -/
structure Notification where
  /-- The number of the listener. -/
  listener : Nat
  /-- The key that the parameter is stored under. -/
  key : Value.Key
  /-- The id of the parameter. -/
  id : Value
  old : Value
  new : Value

/-- What a listener does when it is told of a change. -/
inductive Action where
  | done
  | fail (cause : Misuse)
  | read (next : Catalogue Parameter → Action)
  | set (id value : Value) (next : Action)
  /-- Another listener comes; the action goes on with its number. -/
  | subscribe (listener : Notification → Action) (next : Nat → Action)
  | unsubscribe (listener : Nat) (next : Action)
  /-- The action goes on with what listeners noted down last. -/
  | recollect (next : Value → Action)
  | remember (note : Value) (next : Action)

abbrev Listener := Notification → Action

structure ParameterStore where
  parameters : Catalogue Parameter := .empty
  /-- The listeners in the order in which they came, by number. -/
  listeners : List (Nat × Listener) := []
  /-- The number of the next listener; no number is given twice. -/
  nextListener : Nat := 0
  /-- What listeners noted down last; the store itself makes nothing of it. -/
  memory : Value := .null

namespace ParameterStore

def empty : ParameterStore := {}

instance : Inhabited ParameterStore := ⟨empty⟩

/-- The parameters in order. -/
def all (s : ParameterStore) : List Parameter := s.parameters.values

def size (s : ParameterStore) : Nat := s.parameters.size

/-- Adds a parameter; its id must be new. -/
def add (s : ParameterStore) (p : Parameter) : Except Failure ParameterStore := do
  if ← s.parameters.contains p.id then throw (.parameter (.duplicate p.id.shown))
  return { s with parameters := ← s.parameters.insert p.id p }

/-- Removes a parameter, if it is there. -/
def remove (s : ParameterStore) (id : Value) : Except Misuse ParameterStore := do
  return { s with parameters := ← s.parameters.erase id }

def find? (s : ParameterStore) (id : Value) : Except Misuse (Option Parameter) :=
  s.parameters.find? id

def contains (s : ParameterStore) (id : Value) : Except Misuse Bool :=
  s.parameters.contains id

/-- The first parameter of a name. -/
def findNamed? (s : ParameterStore) (name : Value) : Option Parameter :=
  s.all.find? fun p => p.name.equals name

/-- The values by name. Of parameters of one name the last one counts. -/
def context (s : ParameterStore) : Except Misuse (Catalogue Value) :=
  s.all.foldlM (fun c p => c.insert p.name p.value) .empty

/-- The values by name in a document. -/
def contextValue (s : ParameterStore) : Except Misuse Value := do
  return .object ((← s.context).entries.map fun (name, v) => (name.fieldName, v))

/-! ### Listeners -/

/-- Adds a listener behind the others; answers its number. -/
def subscribe (s : ParameterStore) (listener : Listener) : Nat × ParameterStore :=
  (s.nextListener, { s with
    listeners := s.listeners ++ [(s.nextListener, listener)]
    nextListener := s.nextListener + 1 })

/-- Removes a listener, if it is there. -/
def unsubscribe (s : ParameterStore) (listener : Nat) : ParameterStore :=
  { s with listeners := s.listeners.filter fun entry => entry.1 ≠ listener }

/-! ### Documents -/

/-- The store of the given parameters. -/
def ofList (ps : List Parameter) : Except Failure ParameterStore := ps.foldlM add empty

def toValue (s : ParameterStore) : Except Misuse Value := do
  return .object [("parameters", .list (← s.all.mapM Parameter.toValue))]

/-- The store that a document holds. -/
def ofValue (v : Value) : Except Failure ParameterStore := do
  match v with
  | .object fields =>
    match fields.lookup "parameters" with
    | some parameters => ofList (← (← parameters.items).mapM Parameter.ofValue)
    | none => throw (.parameter .notStore)
  | _ => throw (.parameter .notStore)

end ParameterStore

end Joinery
