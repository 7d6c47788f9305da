import Joinery.Number.Basic
import Joinery.Number.Reading
import Joinery.Text.Quoted
import Joinery.Text.Replace

/-!
# Values

What a document holds: nothing, a truth value, an integer, a double, a text, a list or an object
with fields in order. Properties of shapes, joint records and parameters are kept as values until
they are used, so a value of the wrong kind is found by the operation that needs it. Truth values
count as the integers one and zero in arithmetic.
-/
namespace Joinery

inductive Value where
  | null
  | bool (value : Bool)
  | int (value : Int)
  | float (value : Binary64)
  | text (value : String)
  | list (items : List Value)
  | object (fields : List (String × Value))

namespace Value

instance : Inhabited Value := ⟨.null⟩

def kind : Value → Kind
  | .null => .null
  | .bool _ => .bool
  | .int _ => .int
  | .float _ => .float
  | .text _ => .text
  | .list _ => .list
  | .object _ => .object

def isNull : Value → Bool
  | .null => true
  | _ => false

/-- Whether a value counts as present: zero, the empty text, the empty list and the empty object do
not, nor do null and false. -/
def isTruthy : Value → Bool
  | .null => false
  | .bool b => b
  | .int i => i != 0
  | .float x => !x.equals 0
  | .text s => !s.isEmpty
  | .list items => !items.isEmpty
  | .object fields => !fields.isEmpty

/-- The value, or another one when it does not count as present. -/
def orElse (v other : Value) : Value := if v.isTruthy then v else other

/-! ### Numbers -/

/-- The number that a value is, truth values included. -/
def number? : Value → Option Number
  | .bool b => some (.int (if b then 1 else 0))
  | .int i => some (.int i)
  | .float x => some (.float x)
  | _ => none

def ofNumber : Number → Value
  | .int i => .int i
  | .float x => .float x

/-- The double that a value stands for; a text is read as a number. -/
def toDouble (v : Value) : Except Misuse Binary64 :=
  match v.number? with
  | some n => n.toDouble
  | none =>
    match v with
    | .text s =>
      match Reading.double? s with
      | some x => .ok x
      | none => .error (.unreadable (Text.quoted s))
    | _ => .error (.notNumber v.kind)

/-- The integer that a value stands for, fractions cut off; a text is read as an integer. -/
def toInteger (v : Value) : Except Misuse Int :=
  match v.number? with
  | some n => n.whole Binary64.trunc?
  | none =>
    match v with
    | .text s => Reading.integer s
    | _ => .error (.notInteger v.kind)

/-- The number that a value is; a text is not read. -/
def real (v : Value) : Except Misuse Number :=
  match v.number? with
  | some n => .ok n
  | none => .error (.notReal v.kind)

/-- Whether a number is infinite; an integer beyond all doubles cannot be asked. -/
def isInfinite (v : Value) : Except Misuse Bool := do
  return (← (← v.real).toDouble).isInfinite

/-- Whether a value is a number but no truth value and not NaN. -/
def isPlainNumber : Value → Except Misuse Bool
  | .int i => do
    let _ ← (Number.int i).toDouble
    return true
  | .float x => .ok (!x.isNaN)
  | _ => .ok false

/-- The text that a value is. -/
def asText : Value → Except Misuse String
  | .text s => .ok s
  | v => .error (.notText v.kind)

/-- The text that a value is, to be cut into words. -/
def asWord : Value → Except Misuse String
  | .text s => .ok s
  | v => .error (.notObject v.kind)

/-! ### Fields and items -/

/-- Looks a field up; only an object can be asked. -/
def get (v : Value) (name : String) : Except Misuse Value :=
  match v with
  | .object fields => .ok ((fields.lookup name).getD .null)
  | _ => .error (.notObject v.kind)

/-- Looks a field up that has to be there. -/
def require (v : Value) (name : String) : Except Misuse Value :=
  match v with
  | .object fields =>
    match fields.lookup name with
    | some field => .ok field
    | none => .error (.missingField name)
  | _ => .error (.notObject v.kind)

/-- Looks a field up in the fields of an object, with a value for absent ones. -/
def getD (v : Value) (name : String) (default : Value) : Except Misuse Value :=
  match v with
  | .object fields => .ok ((fields.lookup name).getD default)
  | _ => .error (.notObject v.kind)

/-- What walking through a value meets: the items of a list, the characters of a text, the names of
the fields of an object. -/
def items : Value → Except Misuse (List Value)
  | .list items => .ok items
  | .text s => .ok (s.toList.map fun c => .text c.toString)
  | .object fields => .ok (fields.map fun field => .text field.1)
  | v => .error (.notIterable v.kind)

/-- The items of a value that may be absent. -/
def itemsOrNone (v : Value) : Except Misuse (List Value) :=
  if v.isTruthy then v.items else .ok []

/-- Settings by name: those that are given, as they are given, and defaults for the others. A name
without a default is refused. -/
def settings (defaults given : List (String × Value)) : Except Misuse (String → Value) :=
  match given.find? fun field => (defaults.lookup field.1).isNone with
  | some (name, _) => .error (.unknownField name)
  | none => .ok fun name => ((given ++ defaults).lookup name).getD .null

/-! ### Ends of ranges -/

/-- An end of a range in a document: null when the range is open there. -/
def rangeEnd (v : Value) : Except Misuse Value := do
  return if ← v.isInfinite then .null else v

/-- An end of a range read from a document. -/
def readRangeEnd (v : Value) (openEnd : Binary64) : Except Misuse Value := do
  if v.isNull then return .float openEnd else return .float (← v.toDouble)

/-! ### Equality -/

mutual

/-- Equal, given which numbers are: numbers across kinds, objects whatever the order of their
fields. -/
def equalsBy (numbers : Number → Number → Bool) : Value → Value → Bool
  | .null, .null => true
  | .text a, .text b => a == b
  | .list a, .list b => equalsItems numbers a b
  | .object a, .object b => a.length == b.length && equalsFields numbers a b
  | a, b =>
    match a.number?, b.number? with
    | some m, some n => numbers m n
    | _, _ => false

def equalsItems (numbers : Number → Number → Bool) : List Value → List Value → Bool
  | [], [] => true
  | a :: as, b :: bs => equalsBy numbers a b && equalsItems numbers as bs
  | _, _ => false

/-- Every field on the left has an equal one of its name on the right. -/
def equalsFields (numbers : Number → Number → Bool) :
    List (String × Value) → List (String × Value) → Bool
  | [], _ => true
  | (name, a) :: rest, others =>
    (match others.lookup name with
      | some b => equalsBy numbers a b
      | none => false) && equalsFields numbers rest others

end

/-- Equal in value; NaN equals nothing. -/
def equals (a b : Value) : Bool := a.equalsBy Number.equals b

/-- Equal in value, where NaN counts as equal to itself. -/
def same (a b : Value) : Bool := a.equalsBy Number.same b

/-! ### Keys -/

/-- A key under which something is stored. Numbers of equal value are the same key. NaN equals no
key, not even itself, so each one that is stored bears a mark of its own. -/
inductive Key where
  | null
  | whole (value : Int)
  | fraction (value : Binary64)
  | nan (mark : Nat)
  | text (value : String)
  deriving DecidableEq

/-- The key that a number is. -/
def Key.ofNumber : Number → Key
  | .int i => .whole i
  | .float x =>
    if x.isNaN then .nan 0
    else if x.isWhole then .whole (x.trunc?.getD 0)
    else .fraction x

/-- The mark of a key. -/
def Key.mark : Key → Nat
  | .nan mark => mark
  | _ => 0

/-- The key that a value is looked up by; lists and objects are none. NaN bears the mark zero, under
which nothing is stored. -/
def key (v : Value) : Except Misuse Key :=
  match v with
  | .null => .ok .null
  | .text s => .ok (.text s)
  | .bool b => .ok (.whole (if b then 1 else 0))
  | .int i => .ok (.whole i)
  | .float x => .ok (.ofNumber (.float x))
  | .list _ | .object _ => .error (.notKey v.kind)

/-- Whether a list has an equal item, an object a field of the name, or a text the other one in it. -/
def holds (v item : Value) : Except Misuse Bool :=
  match v with
  | .list items => .ok (items.any item.equals)
  | .text s => do return Text.occursIn (← item.asText).toList s.toList
  | .object fields => do
    let key ← item.key
    return fields.any fun field => key = .text field.1
  | _ => .error (.notIterable v.kind)

end Value

end Joinery
