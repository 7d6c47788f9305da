import Joinery.Binding.Registry

/-!
# Bindings of a shape

The bindings of a shape by the names of its properties. Anything else may stand in their place when
it was set by hand, and what is asked of it then fails, or is answered as that value answers it.
-/
namespace Joinery

inductive Bindings where
  | table (bound : Catalogue Binding)
  /-- A value that was set in the place of bindings. -/
  | other (value : Value)

namespace Bindings

def empty : Bindings := .table .empty

/-- The bindings that a value gives: an object has fields where bindings are needed. -/
def ofValue : Value → Bindings
  | .object fields => .table (.ofTexts (fields.map fun field => (field.1, .foreign field.2)))
  | v => .other v

def isTruthy : Bindings → Bool
  | .table bound => bound.size ≠ 0
  | .other v => v.isTruthy

/-- The bindings with the names of what they are for. -/
def entries : Bindings → Except Misuse (List (Value × Binding))
  | .table bound => .ok bound.entries
  | .other v => .error (.notObject v.kind)

/-- Adds a binding or puts it in the place of another one. -/
def bind (bs : Bindings) (name : Value) (b : Binding) : Except Misuse Bindings :=
  match bs with
  | .table bound => do return .table (← bound.insert name b)
  | .other v => .error (.notIndexed v.kind)

/-- Removes a binding, if it is there. -/
def erase (bs : Bindings) (name : Value) : Except Misuse Bindings :=
  match bs with
  | .table bound => do return .table (← bound.erase name)
  | .other (.list _) => .error (.notIndexed .list)
  | .other v => .error (.notObject v.kind)

/-- Whether something is bound to a name. -/
def holds (bs : Bindings) (name : Value) : Except Misuse Bool :=
  match bs with
  | .table bound => bound.contains name
  | .other v => v.holds name

/-- What is bound to a name, be it null. -/
def get? (bs : Bindings) (name : Value) : Except Misuse (Option Binding) :=
  match bs with
  | .table bound => bound.find? name
  | .other v => .error (.notObject v.kind)

/-- The binding of a name; null is none. -/
def find? (bs : Bindings) (name : Value) : Except Misuse (Option Binding) := do
  match ← bs.get? name with
  | some (.foreign .null) => return none
  | found => return found

/-- Puts a binding with traces in the place of the one without. -/
def update (bs : Bindings) (name : Value) (b : Binding) : Bindings :=
  match bs, name with
  | .table bound, .text name => .table (bound.modify (.text name) fun _ => b)
  | _, _ => bs

end Bindings

end Joinery
