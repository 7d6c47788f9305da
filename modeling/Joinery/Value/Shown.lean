import Joinery.Number.Decimal
import Joinery.Value.Basic

/-!
# Values in messages

The text of a value inside messages. Alone, a text is shown as it is; inside lists and objects, and
where a message quotes a value, it stands between quotes. Null and the truth values are spelled
`None`, `True` and `False`.
-/
namespace Joinery.Value

mutual

/-- A value as messages quote it. -/
def quoted : Value → String
  | .null => "None"
  | .bool b => if b then "True" else "False"
  | .int i => toString i
  | .float x => x.text
  | .text s => Text.quoted s
  | .list items => "[" ++ quotedItems items ++ "]"
  | .object fields => "\x7b" ++ quotedFields fields ++ "\x7d"

def quotedItems : List Value → String
  | [] => ""
  | [v] => quoted v
  | v :: rest => quoted v ++ ", " ++ quotedItems rest

def quotedFields : List (String × Value) → String
  | [] => ""
  | [(name, v)] => Text.quoted name ++ ": " ++ quoted v
  | (name, v) :: rest => Text.quoted name ++ ": " ++ quoted v ++ ", " ++ quotedFields rest

end

/-- A value as messages show it. -/
def shown : Value → String
  | .text s => s
  | v => v.quoted

mutual

/-- Whether no integer in a value has too many digits to be written. -/
def isWritable : Value → Bool
  | .int i => decide (i.natAbs < 10 ^ Misuse.digitLimit)
  | .list items => areWritable items
  | .object fields => fieldsAreWritable fields
  | _ => true

def areWritable : List Value → Bool
  | [] => true
  | v :: rest => isWritable v && areWritable rest

def fieldsAreWritable : List (String × Value) → Bool
  | [] => true
  | (_, v) :: rest => isWritable v && fieldsAreWritable rest

end

/-- A number in brief, with six significant digits. -/
def brief (v : Value) : String :=
  match v.toDouble with
  | .ok x => x.brief
  | .error _ => v.shown

/-- The name that a value has as that of a field in a JSON document. -/
def fieldName : Value → String
  | .null => "null"
  | .bool b => if b then "true" else "false"
  | .float .nan => "NaN"
  | .float (.infinite negative) => if negative then "-Infinity" else "Infinity"
  | v => v.shown

end Joinery.Value
