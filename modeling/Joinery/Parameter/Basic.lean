import Joinery.Arithmetic
import Joinery.Failure

/-!
# Parameters

A parameter is a named number with a range and a step. Its fields are kept as they are given; a new
value is clamped into the range and then moved to the nearest multiple of the step, which may lie
outside the range again. In documents an open end of the range is null.
-/
namespace Joinery

structure Parameter where
  id : Value
  /-- The name that formulas use. -/
  name : Value
  value : Value
  min : Value
  max : Value
  /-- Values are multiples of the step, unless it is zero. -/
  step : Value

namespace Parameter

/-- The number that is stored when `v` is asked for: clamped into the range, then moved to the
nearest multiple of the step, the even one at a tie. -/
def settle {α : Type} [Arithmetic α] (min max step v : α) : Except Misuse α := do
  let clamped ← Arithmetic.greatest min (← Arithmetic.least max v)
  if ← Arithmetic.lt (Arithmetic.ofInt 0) step then
    let steps ← Arithmetic.round (← Arithmetic.div clamped step)
    Arithmetic.mul (Arithmetic.ofInt steps) step
  else return clamped

/-- A parameter needs a name that is neither null nor empty. -/
def make (id name value min max step : Value) : Except Failure Parameter :=
  if name.isTruthy then .ok ⟨id, name, value, min, max, step⟩
  else .error (.parameter .nameMissing)

/-- The parameter with another value. -/
def withValue (p : Parameter) (v : Value) : Except Misuse Parameter := do
  let value ← settle p.min p.max p.step (.float (← v.toDouble))
  return { p with value := value }

/-! ### Fields -/

def defaults : List (String × Value) :=
  [("id", .null), ("name", .null), ("value", .float 0), ("min", .float (.infinite true)),
    ("max", .float (.infinite false)), ("step", .float 0)]

/-- A parameter whose fields are kept as they are given; id and name have to be. -/
def ofFields (fields : List (String × Value)) : Except Failure Parameter := do
  let field ← Value.settings defaults fields
  for name in ["id", "name"] do
    if (fields.lookup name).isNone then throw (.misuse (.notGiven name))
  make (field "id") (field "name") (field "value") (field "min") (field "max") (field "step")

/-! ### Documents -/

/-- The parameter in a document. -/
def toValue (p : Parameter) : Except Misuse Value := do
  return .object [("id", p.id), ("name", p.name), ("value", p.value), ("min", ← p.min.rangeEnd),
    ("max", ← p.max.rangeEnd), ("step", p.step)]

/-- The parameter that a document holds; its numbers are doubles. -/
def ofValue (v : Value) : Except Failure Parameter := do
  let low ← v.get "min"
  let high ← v.get "max"
  let id ← v.require "id"
  let name ← v.require "name"
  let value ← (← v.getD "value" (.float 0)).toDouble
  let min ← low.readRangeEnd (.infinite true)
  let max ← high.readRangeEnd (.infinite false)
  let step ← ((← v.get "step").orElse (.float 0)).toDouble
  make id name (.float value) min max (.float step)

end Parameter

end Joinery
