import Joinery.Number.Decimal
import Joinery.Value.Basic
import Joinery.Text.Quoted

/-!
# Writing JSON

Values as JSON text in ASCII: characters beyond it are escaped as UTF-16 code units. `compact` puts
a document on one line; `indented` gives every item and field a line of its own.
-/
namespace Joinery.Json

/-- The escape of a UTF-16 code unit. -/
def escapeUnit (unit : Nat) : List Char := '\\' :: 'u' :: Text.hexDigits 4 unit

/-- One character inside a text. -/
def escapeChar (c : Char) : List Char :=
  if c = '"' || c = '\\' then ['\\', c]
  else if c = '\n' then ['\\', 'n']
  else if c = '\r' then ['\\', 'r']
  else if c = '\t' then ['\\', 't']
  else if c = '\x08' then ['\\', 'b']
  else if c = '\x0c' then ['\\', 'f']
  else if 0x20 ≤ c.toNat && c.toNat < 0x7F then [c]
  else if Text.codeOf c < 0x10000 then escapeUnit (Text.codeOf c)
  else
    let offset := c.toNat - 0x10000
    escapeUnit (0xD800 + offset / 0x400) ++ escapeUnit (0xDC00 + offset % 0x400)

/-- A text between quotes. -/
def textToken (s : String) : String := String.ofList ('"' :: s.toList.flatMap escapeChar ++ ['"'])

/-- A double; NaN and the infinities are spelled as words. -/
def floatToken : Binary64 → String
  | .nan => "NaN"
  | .infinite negative => if negative then "-Infinity" else "Infinity"
  | x => x.text

/-- How items are separated and set off. -/
structure Spacing where
  /-- What stands between items, at a depth. -/
  between : Nat → String
  /-- What stands before the first item, at the depth of the items. -/
  first : Nat → String
  /-- What stands behind the last item, at the depth of the container. -/
  last : Nat → String

def onOneLine : Spacing := ⟨fun _ => ", ", fun _ => "", fun _ => ""⟩

/-- The start of a line at a depth. -/
def lineStart (depth : Nat) : String := String.ofList ('\n' :: List.replicate (2 * depth) ' ')

def onOwnLines : Spacing := ⟨fun depth => "," ++ lineStart depth, lineStart, lineStart⟩

mutual

/-- A value at a depth. -/
def write (spacing : Spacing) (depth : Nat) : Value → String
  | .null => "null"
  | .bool b => if b then "true" else "false"
  | .int i => toString i
  | .float x => floatToken x
  | .text s => textToken s
  | .list [] => "[]"
  | .list items =>
    "[" ++ spacing.first (depth + 1) ++ writeItems spacing (depth + 1) items ++
      spacing.last depth ++ "]"
  | .object [] => "\x7b\x7d"
  | .object fields =>
    "\x7b" ++ spacing.first (depth + 1) ++ writeFields spacing (depth + 1) fields ++
      spacing.last depth ++ "\x7d"

def writeItems (spacing : Spacing) (depth : Nat) : List Value → String
  | [] => ""
  | [v] => write spacing depth v
  | v :: rest => write spacing depth v ++ spacing.between depth ++ writeItems spacing depth rest

def writeFields (spacing : Spacing) (depth : Nat) : List (String × Value) → String
  | [] => ""
  | [(name, v)] => textToken name ++ ": " ++ write spacing depth v
  | (name, v) :: rest =>
    textToken name ++ ": " ++ write spacing depth v ++ spacing.between depth ++
      writeFields spacing depth rest

end

/-- A document on one line. -/
def compact (v : Value) : String := write onOneLine 0 v

/-- A document with two blanks of indentation a level. -/
def indented (v : Value) : String := write onOwnLines 0 v

end Joinery.Json
