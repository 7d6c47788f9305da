import Joinery.Formula.Span
import Joinery.Number.Decimal

/-!
# Formulas

A formula is a number, a parameter name, an operator between two formulas, or a call of a function.
Negation has no node of its own: `-x` is `-1 * x`. Nodes know their place in the text they were read
from, if there is one. A node of a foreign kind can stand in a formula built by hand; it is shown by
its label and cannot be evaluated.
-/
namespace Joinery

/-- An arithmetic operator; the reader produces the first four only. -/
inductive Operator where
  | plus | minus | times | over
  | other (symbol : String)
  deriving DecidableEq, Repr

def Operator.symbol : Operator → String
  | .plus => "+"
  | .minus => "-"
  | .times => "*"
  | .over => "/"
  | .other symbol => symbol

def Operator.ofSymbol : String → Operator
  | "+" => .plus
  | "-" => .minus
  | "*" => .times
  | "/" => .over
  | symbol => .other symbol

inductive Formula where
  | number (value : Binary64) (span : Option Formula.Span)
  | parameter (name : String) (span : Option Formula.Span)
  | binary (op : Operator) (left right : Formula) (span : Option Formula.Span)
  | call (name : String) (args : List Formula) (span : Option Formula.Span)
  | foreign (label : String)

namespace Formula

instance : Inhabited Formula := ⟨.number 0 none⟩

def span? : Formula → Option Span
  | .number _ span => span
  | .parameter _ span => span
  | .binary _ _ _ span => span
  | .call _ _ span => span
  | .foreign _ => none

/-- The negation that starts with the minus sign at the given place. -/
def negate (minus : Span) (operand : Formula) : Formula :=
  .binary .times (.number (-1) (some minus)) operand (Span.cover (some minus) operand.span?)

/-- Two operands joined by an operator. -/
def join (op : Operator) (left right : Formula) : Formula :=
  .binary op left right (Span.cover left.span? right.span?)

/-! ### Parameter names -/

mutual

/-- Adds the parameter names of a formula to names met before, in order of first use. -/
def namesAfter : Formula → List String → Except String (List String)
  | .number _ _, seen => .ok seen
  | .parameter name _, seen => .ok (if name ∈ seen then seen else seen ++ [name])
  | .binary _ left right _, seen => do namesAfter right (← namesAfter left seen)
  | .call _ args _, seen => namesAfterAll args seen
  | .foreign label, _ => .error label

def namesAfterAll : List Formula → List String → Except String (List String)
  | [], seen => .ok seen
  | arg :: rest, seen => do namesAfterAll rest (← namesAfter arg seen)

end

/-- The parameter names of a formula in order of first use; a foreign node is answered by its
label. -/
def names (f : Formula) : Except String (List String) := namesAfter f []

/-! ### Equality -/

mutual

/-- Equal but for the places; numbers are compared by value. -/
def same : Formula → Formula → Bool
  | .number x _, .number y _ => x.equals y
  | .parameter a _, .parameter b _ => a == b
  | .binary op l r _, .binary op' l' r' _ => op == op' && same l l' && same r r'
  | .call a xs _, .call b ys _ => a == b && sameAll xs ys
  | .foreign a, .foreign b => a == b
  | _, _ => false

def sameAll : List Formula → List Formula → Bool
  | [], [] => true
  | x :: xs, y :: ys => same x y && sameAll xs ys
  | _, _ => false

end

/-! ### Outline -/

/-- Indentation by two blanks a level. -/
def indentText (indent : Nat) : String := String.ofList (List.replicate (2 * indent) ' ')

mutual

/-- One line for each node, operands and arguments indented below. -/
def outlineLines (indent : Nat) : Formula → List String
  | .number x _ => [s!"{indentText indent}Number({x.brief})"]
  | .parameter name _ => [s!"{indentText indent}ParameterRef({name})"]
  | .binary op left right _ =>
    s!"{indentText indent}BinaryOp({op.symbol})" ::
      outlineLines (indent + 1) left ++ outlineLines (indent + 1) right
  | .call name args _ =>
    s!"{indentText indent}FunctionCall({name})" :: outlineAll (indent + 1) args
  | .foreign label => [s!"{indentText indent}{label}()"]

def outlineAll (indent : Nat) : List Formula → List String
  | [] => []
  | arg :: rest => outlineLines indent arg ++ outlineAll indent rest

end

/-- The outline of a formula. -/
def outline (indent : Nat) (f : Formula) : String := "\n".intercalate (outlineLines indent f)

end Formula

end Joinery
