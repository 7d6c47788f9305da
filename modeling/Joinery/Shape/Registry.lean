import Joinery.Shape.Basic
import Joinery.Text.Digit

/-!
# Registries of shapes

A registry knows the kinds of shapes by words, whose case does not matter, and gives new shapes ids:
the word and a number above all numbers given before and all numbers of existing ids with that word.
-/
namespace Joinery

structure ShapeRegistry where
  kinds : Table String FigureKind
  /-- The last number given for a word. -/
  counters : Table String Nat := Table.empty
  bindings : BindingRegistry := .builtin

namespace ShapeRegistry

def builtin : ShapeRegistry where
  kinds := Table.ofList ([.rectangle, .polygon, .path].map fun kind =>
    (FigureKind.label kind, kind))

/-- Registers a kind under a word. What is no kind of shape comes with its label and is refused. -/
def register (r : ShapeRegistry) (word : Value) (what : Except String FigureKind) :
    Except Failure ShapeRegistry := do
  match what with
  | .ok kind => return { r with kinds := r.kinds.insert (Text.lower (← word.asWord)) kind }
  | .error label => throw (.shape (.notShape label))

def isRegistered (r : ShapeRegistry) (word : Value) : Except Misuse Bool := do
  return r.kinds.contains (Text.lower (← word.asWord))

/-- The registered words in order. -/
def words (r : ShapeRegistry) : List String := r.kinds.keys

/-- The kind of a word. -/
def kindOf (r : ShapeRegistry) (word : Value) : Except Failure FigureKind :=
  match r.kinds.find? (Text.lower word.shown) with
  | some kind => .ok kind
  | none => .error (.shape (.unknownType word.shown r.words))

/-! ### Ids -/

/-- The text after a beginning. -/
def after? : List Char → List Char → Option (List Char)
  | [], cs => some cs
  | b :: bs, c :: cs => if b = c then after? bs cs else none
  | _ :: _, [] => none

/-- The number of an id, if it was made for a word: decimal digits of any script, and perhaps a line
break behind them. -/
def numberOf? (word id : String) : Except Misuse (Option Nat) :=
  let digits := (after? (word.toList ++ ['-']) id.toList).getD []
  let digits := if digits.getLast? = some '\n' then digits.dropLast else digits
  match Text.digitsValue? digits with
  | none => .ok none
  | some n =>
    if digits.isEmpty then .ok none
    else if Misuse.digitLimit < digits.length then .error (.tooManyDigits digits.length)
    else .ok (some n)

/-- The greatest of a number and the numbers of ids, all of which have to be texts. -/
def highest (word : String) (n : Nat) (ids : List Value) : Except Misuse Nat :=
  ids.foldlM (fun n id => do return max n ((← numberOf? word (← id.asText)).getD 0)) n

/-- The id for a number, which must not be too long. -/
def idFor (word : String) (n : Nat) : Except Misuse Value :=
  if 10 ^ Misuse.digitLimit ≤ n then .error .tooLongToWrite else .ok (.text s!"{word}-{n}")

/-- A new id for a word. The number that it takes stays taken even if it is too long. -/
def newId (r : ShapeRegistry) (word existing : Value) : Except Misuse Value × ShapeRegistry :=
  let found : Except Misuse (String × Nat) := do
    let word := Text.lower (← word.asWord)
    return (word, (← highest word ((r.counters.find? word).getD 0) (← existing.items)) + 1)
  match found with
  | .error cause => (.error cause, r)
  | .ok (word, n) => (idFor word n, { r with counters := r.counters.insert word n })

/-- Counting starts again. -/
def reset (r : ShapeRegistry) : ShapeRegistry := { r with counters := Table.empty }

/-! ### Making shapes -/

/-- The id that is asked for, or a new one when none is. -/
def idOr (r : ShapeRegistry) (word id existing : Value) : Except Misuse Value × ShapeRegistry :=
  if id.isTruthy then (.ok id, r) else r.newId word existing

/-- A new shape. An id that was given to it stays given, even if the options are refused. -/
def create (r : ShapeRegistry) (word id existing : Value) (options : List (String × Value)) :
    Except Failure Shape × ShapeRegistry :=
  match r.kindOf word with
  | .error failure => (.error failure, r)
  | .ok kind =>
    let (id, r) := r.idOr word id existing
    (do return ← Shape.ofOptions kind (← id) options, r)

/-- The options that a registry itself takes. -/
def ownOptions : List String := ["self", "shape_type", "id", "existing_ids"]

/-- A new shape, for which the id and the ids in use are among the options of the registry. -/
def createFrom (r : ShapeRegistry) (word : Value) (own options : List (String × Value)) :
    Except Failure Shape × ShapeRegistry :=
  match own.find? fun option => !(["id", "existing_ids"].contains option.1) with
  | some (name, _) => (.error (.misuse (.unknownField name)), r)
  | none =>
    let existing := (own.lookup "existing_ids").getD (.list [])
    r.create word ((own.lookup "id").getD .null) existing options

/-- The shape that a document describes. -/
def ofValue (r : ShapeRegistry) (v : Value) : Except Failure Shape :=
  match v with
  | .object fields =>
    let word := (fields.lookup "type").getD .null
    if word.isTruthy then do Shape.ofFields (← r.kindOf word) r.bindings fields
    else .error (.shape .typeMissing)
  | _ => .error (.shape .typeMissing)

end ShapeRegistry

end Joinery
