import Joinery.Formula.Basic
import Joinery.Value.Basic

/-!
# Diagnostics

What a user is told about a formula or a binding: a code, a message, the place, and hints. `Fault`
lists the causes for which reading or evaluating a formula fails; codes, wording and hints are
functions of the cause.
-/
namespace Joinery.Formula

inductive Severity where
  | error | warning | info
  deriving DecidableEq, Repr

def Severity.label : Severity → String
  | .error => "error"
  | .warning => "warning"
  | .info => "info"

structure Diagnostic where
  code : String
  message : String
  severity : Severity
  place : Option Extent := none
  /-- The text of the formula, when it is known. -/
  source : Option String := none
  hints : List String := []
  deriving DecidableEq, Repr

namespace Diagnostic

/-- Header, source line with the place underlined, and hints. -/
def format (d : Diagnostic) (showSource : Bool) : String :=
  let header := s!"{d.severity.label}[{d.code}]: {d.message}"
  let located :=
    match d.place with
    | some place => s!"col {place.start + 1}: {header}"
    | none => header
  let underlined :=
    match showSource, d.source, d.place with
    | true, some source, some place =>
      let width := max 1 (place.stop - place.start).toNat
      let caret := String.ofList
        (List.replicate place.start.toNat ' ' ++ List.replicate width '^')
      [s!"  | {source}", s!"  | {caret}"]
    | _, _, _ => []
  "\n".intercalate (located :: underlined ++ d.hints.map fun hint => s!"  = hint: {hint}")

/-- The diagnostic as a document value. -/
def toValue (d : Diagnostic) : Value :=
  let range :=
    match d.place with
    | some place =>
      [("range", Value.object [("start", .int place.start), ("end", .int place.stop)])]
    | none => []
  .object ([("code", .text d.code), ("message", .text d.message),
    ("severity", .text d.severity.label), ("hints", .list (d.hints.map .text))] ++ range)

end Diagnostic

/-- Why a formula cannot be read or evaluated. -/
inductive Fault where
  | unexpectedCharacter (found : Char) (position : Nat)
  | empty
  | unexpectedToken (found : String)
  | unexpectedEnd
  | unmatchedParenthesis
  | trailingInput (text : String)
  | missingFormula
  | divisionByZero
  | unknownFunction (name : String) (available : List String)
  | wrongArity (name expected : String) (found : Nat)
  | outsideDomain (name reason : String)
  | unknownOperator (symbol : String)
  deriving DecidableEq, Repr

namespace Fault

/-- What may stand where an operand has to start. -/
def operand : String := "number, parameter name, function call or '('"

def code : Fault → String
  | .unexpectedCharacter .. => "E001"
  | .empty => "E100"
  | .unexpectedToken _ => "E101"
  | .unexpectedEnd => "E102"
  | .unmatchedParenthesis => "E103"
  | .trailingInput _ => "E104"
  | .missingFormula => "E200"
  | .divisionByZero => "E201"
  | .unknownFunction .. => "E202"
  | .wrongArity .. => "E203"
  | .outsideDomain .. => "E204"
  | .unknownOperator _ => "E205"

def message : Fault → String
  | .unexpectedCharacter found position =>
    s!"unexpected character '{found}' at position {position}"
  | .empty => "expression cannot be empty"
  | .unexpectedToken found => s!"expected {operand}, found {found}"
  | .unexpectedEnd => s!"unexpected end of expression, expected {operand}"
  | .unmatchedParenthesis => "unmatched parenthesis"
  | .trailingInput text => s!"unexpected characters after expression: '{text}'"
  | .missingFormula => "an AST is required for evaluation"
  | .divisionByZero => "division by zero"
  | .unknownFunction name available =>
    s!"unknown function '{name}'. Supported functions: {Text.listed available}"
  | .wrongArity name expected found => s!"{name}() requires {expected}, got {found}"
  | .outsideDomain name reason => s!"{name}() {reason}"
  | .unknownOperator symbol => s!"unknown operator '{symbol}'"

def hints : Fault → List String
  | .unmatchedParenthesis => ["every '(' must be closed by a matching ')'"]
  | .unknownFunction _ available => [s!"supported functions: {Text.listed available}"]
  | _ => []

/-- Whether the fault lies in the text, not in its evaluation. -/
def isReading : Fault → Bool
  | .unexpectedCharacter .. | .empty | .unexpectedToken _ | .unexpectedEnd
  | .unmatchedParenthesis | .trailingInput _ => true
  | _ => false

end Fault

/-- A fault at its place. -/
structure Error where
  fault : Fault
  span : Option Span := none
  source : Option String := none
  deriving DecidableEq, Repr

namespace Error

def diagnostic (e : Error) : Diagnostic where
  code := e.fault.code
  message := e.fault.message
  severity := .error
  place := e.span.map Span.extent
  source := e.source
  hints := e.fault.hints

/-- The wording of an error: its diagnostic in full. -/
def message (e : Error) : String := e.diagnostic.format true

end Error

end Joinery.Formula
