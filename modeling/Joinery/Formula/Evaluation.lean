import Joinery.Formula.Function
import Joinery.Formula.Reader
import Joinery.Outcome

/-!
# Evaluation

The value of a formula in a context that gives values to parameter names. Operands and arguments are
evaluated from left to right, before the operation itself; the name and the arity of a call are
checked before its arguments. A name without a value counts as zero and is noticed.
-/
namespace Joinery

/-- Gives parameter names their values; null is no value. -/
abbrev Context := String → Value

/-- Applies an operator; the place is that of the operation. -/
def Operator.apply (op : Operator) (x y : Binary64) (span : Option Formula.Span) :
    Except Formula.Error Binary64 :=
  match op with
  | .plus => .ok (x + y)
  | .minus => .ok (x - y)
  | .times => .ok (x * y)
  | .over => if y.equals 0 then .error ⟨.divisionByZero, span, none⟩ else .ok (x / y)
  | .other symbol => .error ⟨.unknownOperator symbol, span, none⟩

namespace Formula

/-- Gives a place to an argument outside a function's domain. -/
def placed (span : Option Span) : Except Failure Binary64 → Except Failure Binary64
  | .error (.formula ⟨.outsideDomain name reason, none, source⟩) =>
    .error (.formula ⟨.outsideDomain name reason, span, source⟩)
  | result => result

mutual

/-- The value of a formula. -/
def evaluate (functions : Functions) (context : Context) : Formula → Outcome Binary64
  | .number x _ => pure x
  | .parameter name span => do
    let value := context name
    if value.isNull then
      Outcome.notice (.missingName name span)
      return 0
    else value.toDouble
  | .binary op left right span => do
    let x ← evaluate functions context left
    let y ← evaluate functions context right
    op.apply x y span
  | .call name args span =>
    match functions.find? name with
    | none => .fail (.formula ⟨.unknownFunction name functions.names, span, none⟩)
    | some f =>
      if f.accepts args.length then do
        let xs ← evaluateAll functions context args
        placed span (f.apply xs)
      else .fail (.formula ⟨.wrongArity name f.arity args.length, span, none⟩)
  | .foreign label => .fail (.foreignNode label)

/-- The values of formulas, from left to right. -/
def evaluateAll (functions : Functions) (context : Context) :
    List Formula → Outcome (List Binary64)
  | [] => pure []
  | arg :: rest => do
    let x ← evaluate functions context arg
    let xs ← evaluateAll functions context rest
    return x :: xs

end

/-- The value of a formula that may be absent. -/
def evaluate? (functions : Functions) (context : Context) : Option Formula → Outcome Binary64
  | some f => evaluate functions context f
  | none => .fail (.formula ⟨.missingFormula, none, none⟩)

/-- Reads a text and evaluates it. -/
def evaluateText (functions : Functions) (context : Context) (source : Value) :
    Outcome Binary64 := do
  evaluate functions context (← readValue source)

/-- The parameter names of the formula that a text reads as; what is no text has none to ask for. -/
def namesOf (source : Value) : Except Failure (List String) := do
  match source with
  | .text text =>
    match (← read text).names with
    | .ok names => return names
    | .error label => throw (.foreignNode label)
  | _ => throw (.misuse (.notObject source.kind))

end Formula

end Joinery
