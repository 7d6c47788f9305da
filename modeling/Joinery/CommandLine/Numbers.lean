import Joinery.CommandLine.Report
import Joinery.Number.Decimal
import Joinery.Value.Basic

/-!
# Numbers on the command line

Parameters are given as a name and a number with an equals sign between them. Whole numbers are
written without a point.
-/
namespace Joinery.CommandLine

/-- A name and its number. -/
def readAssignment (v : Value) : Except Failure (String × Binary64) := do
  if !(← v.holds (.text "=")) then throw (.commandLine (.notAssignment v.shown))
  let cs := (← v.asWord).toList
  let strip (cs : List Char) := String.ofList (Text.strip cs)
  let name := strip (cs.takeWhile (· ≠ '='))
  let value := strip ((cs.dropWhile (· ≠ '=')).drop 1)
  match Reading.double? value with
  | some x => return (name, x)
  | none => throw (.commandLine (.notNumber name (Text.quoted value)))

/-- The text of a number. -/
def numberText (v : Value) : Except Misuse String := do
  let x ← v.toDouble
  if x.isWhole then return toString (← v.toInteger) else return x.text

/-- Numbers by name; of numbers with one name the last one counts. -/
def contextOf (assignments : List (String × Binary64)) : String → Value := fun name =>
  match assignments.reverse.lookup name with
  | some x => .float x
  | none => .null

end Joinery.CommandLine
