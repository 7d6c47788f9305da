/-!
# Misuse of values

Why a value from a file or a caller cannot be used as it is asked to be: a text where a number is
needed, a number that has no whole part, an object without the field. Everything that reads or
computes with values fails with one of these causes and with nothing else.
-/
namespace Joinery

/-- What sort of thing a value is. -/
inductive Kind where
  | null | bool | int | float | text | list | object
  deriving DecidableEq, Repr

/-- The word for a kind in messages. -/
def Kind.label : Kind → String
  | .null => "NoneType"
  | .bool => "bool"
  | .int => "int"
  | .float => "float"
  | .text => "str"
  | .list => "list"
  | .object => "dict"

/-- The cause for which a value cannot be used. -/
inductive Misuse where
  /-- A value that is neither a number nor a text stands for a number. -/
  | notNumber (found : Kind)
  /-- A value that is neither a number nor a text stands for an integer. -/
  | notInteger (found : Kind)
  /-- An operation on real numbers meets another kind. -/
  | notReal (found : Kind)
  /-- Two kinds that an operator cannot join. -/
  | incompatible (left right : Kind)
  /-- A value is walked through that has no items. -/
  | notIterable (found : Kind)
  /-- A value is asked for an item by its place that has no places. -/
  | notIndexed (found : Kind)
  /-- A value stands where something to perform is needed. -/
  | notCallable (found : Kind)
  /-- A list or an object is used as a key. -/
  | notKey (found : Kind)
  /-- A text is needed. -/
  | notText (found : Kind)
  /-- An object is needed, to look a field up in. -/
  | notObject (found : Kind)
  /-- The text, shown quoted, does not read as a number. -/
  | unreadable (quoted : String)
  /-- The text, shown quoted, does not read as an integer. -/
  | unreadableInteger (quoted : String)
  /-- An integer is read from a text with too many digits. -/
  | tooManyDigits (found : Nat)
  /-- An integer has too many digits to be written. -/
  | tooLongToWrite
  /-- A required field is absent. -/
  | missingField (name : String)
  /-- A field that nobody declared. -/
  | unknownField (name : String)
  /-- A field without a default is not given. -/
  | notGiven (name : String)
  /-- A coordinate is asked for that a list is too short to have. -/
  | tooShort
  /-- An integer is too large for a double, or an infinity is asked for its whole part. -/
  | outOfRange
  /-- NaN is asked for its whole part. -/
  | notWhole
  /-- A function is asked for a value where it has none. -/
  | undefined
  /-- A text or list would be too large to be stored. -/
  | tooLarge
  /-- There is no such date or time. -/
  | notDate
  /-- A number is no character. -/
  | notCharacter
  /-- A path holds a null character. -/
  | nullInPath
  /-- A path holds a code unit that is half of a pair, in a row of some, behind some characters. -/
  | unpairedInPath (unit before count : Nat)
  /-- Division by zero. -/
  | zeroDivisor
  deriving DecidableEq, Repr

/-- How many digits an integer has at most that is read from a text or written. -/
def Misuse.digitLimit : Nat := 4300

/-- The code units in a path of which nothing can be made, as messages name them. -/
def Misuse.unpairedText (unit before count : Nat) : String :=
  if count = 1 then
    "character '\\u" ++ String.ofList (Nat.toDigits 16 unit) ++ s!"' in position {before}"
  else s!"characters in position {before}-{before + count - 1}"

/-- The wording of a misuse. -/
def Misuse.message : Misuse → String
  | .notNumber found => s!"float() argument must be a string or a real number, not '{found.label}'"
  | .notInteger found =>
    "int() argument must be a string, a bytes-like object or a real number, not '" ++
      found.label ++ "'"
  | .notReal found => s!"must be real number, not {found.label}"
  | .incompatible left right =>
    s!"unsupported operand type(s): '{left.label}' and '{right.label}'"
  | .notIterable found => s!"'{found.label}' object is not iterable"
  | .notIndexed found => s!"'{found.label}' object is not subscriptable"
  | .notCallable found => s!"'{found.label}' object is not callable"
  | .notKey found => s!"unhashable type: '{found.label}'"
  | .notText found => s!"expected string or bytes-like object, got '{found.label}'"
  | .notObject found => s!"'{found.label}' object has no such attribute"
  | .unreadable quoted => s!"could not convert string to float: {quoted}"
  | .unreadableInteger quoted => s!"invalid literal for int() with base 10: {quoted}"
  | .tooManyDigits found =>
    s!"Exceeds the limit ({digitLimit} digits) for integer string conversion: value has {found} " ++
      "digits; use sys.set_int_max_str_digits() to increase the limit"
  | .tooLongToWrite =>
    s!"Exceeds the limit ({digitLimit} digits) for integer string conversion; " ++
      "use sys.set_int_max_str_digits() to increase the limit"
  | .missingField name => s!"'{name}'"
  | .unknownField name => s!"got an unexpected keyword argument '{name}'"
  | .notGiven name => s!"missing required argument: '{name}'"
  | .tooShort => "list index out of range"
  | .outOfRange => "number out of range"
  | .notWhole => "cannot convert float NaN to integer"
  | .undefined => "math domain error"
  | .tooLarge => "not enough memory"
  | .notDate => "date or time out of range"
  | .notCharacter => "character out of range"
  | .nullInPath => "embedded null byte"
  | .unpairedInPath unit before count =>
    s!"'utf-8' codec can't encode {unpairedText unit before count}: surrogates not allowed"
  | .zeroDivisor => "division by zero"

end Joinery
