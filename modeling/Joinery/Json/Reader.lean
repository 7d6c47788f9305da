import Joinery.Failure
import Joinery.Text.Surrogate
import Joinery.Value.Basic

/-!
# Reading JSON

Documents are read into values. Numbers without fraction and exponent are integers, others doubles;
`NaN` and the infinities are accepted, integers of too many digits are not. A field that occurs twice keeps its first place and its last
value. Anything else that is not JSON is refused at the first place where reading cannot go on.
-/
namespace Joinery.Json

/-- What is wrong with a document. -/
inductive Fault where
  | expectingValue
  | expectingName
  | expectingColon
  | expectingComma
  | extraData
  | unterminatedText
  | controlCharacter
  | invalidEscape
  | invalidCodePoint
  | byteOrderMark
  | tooManyDigits (found : Nat)
  deriving DecidableEq, Repr

def Fault.label : Fault → String
  | .expectingValue => "Expecting value"
  | .expectingName => "Expecting property name enclosed in double quotes"
  | .expectingColon => "Expecting ':' delimiter"
  | .expectingComma => "Expecting ',' delimiter"
  | .extraData => "Extra data"
  | .unterminatedText => "Unterminated string starting at"
  | .controlCharacter => "Invalid control character at"
  | .invalidEscape => "Invalid \\escape"
  | .invalidCodePoint => "Invalid \\uXXXX escape"
  | .byteOrderMark => "Unexpected UTF-8 BOM (decode using utf-8-sig)"
  | .tooManyDigits found => (Misuse.tooManyDigits found).message

/-- A fault at an offset. -/
structure Error where
  fault : Fault
  position : Nat
  deriving DecidableEq, Repr

/-- The wording of an error in a document, with line and column counted from one. -/
def Error.message (e : Error) (document : String) : String :=
  let before := document.toList.take e.position
  let line := before.countP (· = '\n') + 1
  let column := (before.reverse.takeWhile (· ≠ '\n')).length + 1
  s!"{e.fault.label}: line {line} column {column} (char {e.position})"

/-- The failure that an error in a document is. -/
def Error.failure (e : Error) (document : String) : Failure :=
  match e.fault with
  | .tooManyDigits found => .misuse (.tooManyDigits found)
  | _ => .document (e.message document)

/-- What is left of a document, from an offset on. -/
structure Cursor where
  position : Nat
  rest : List Char

namespace Cursor

/-- The cursor after the first characters. -/
def drop (c : Cursor) (count : Nat) : Cursor := ⟨c.position + count, c.rest.drop count⟩

def isBlank (c : Char) : Bool := c == ' ' || c == '\t' || c == '\n' || c == '\r'

/-- The cursor behind blanks. -/
def skipBlanks (c : Cursor) : Cursor := c.drop (c.rest.takeWhile isBlank).length

def fail {α : Type} (c : Cursor) (fault : Fault) : Except Error α := .error ⟨fault, c.position⟩

end Cursor

/-! ### Texts -/

/-- The code unit that four hexadecimal digits stand for. -/
def codeUnit? : List Char → Option (Nat × List Char)
  | a :: b :: c :: d :: rest => do
    let unit := ((← Text.hexValue? a) * 16 + (← Text.hexValue? b)) * 16 + (← Text.hexValue? c)
    return (unit * 16 + (← Text.hexValue? d), rest)
  | _ => none

/-- The character that a short escape stands for. -/
def shortEscape? : Char → Option Char
  | '"' => some '"'
  | '\\' => some '\\'
  | '/' => some '/'
  | 'b' => some '\x08'
  | 'f' => some '\x0c'
  | 'n' => some '\n'
  | 'r' => some '\r'
  | 't' => some '\t'
  | _ => none

/-- The second half of a surrogate pair. -/
def lowSurrogate? : List Char → Option (Nat × List Char)
  | '\\' :: 'u' :: rest => do
    let (unit, rest) ← codeUnit? rest
    if 0xDC00 ≤ unit && unit ≤ 0xDFFF then some (unit, rest) else none
  | _ => none

/-- A text from behind its opening quote, which stands at offset `opening`. -/
def textFrom (opening : Nat) : Nat → Cursor → List Char → Except Error (String × Cursor)
  | 0, _, _ => .error ⟨.unterminatedText, opening⟩
  | fuel + 1, c, done =>
    match c.rest with
    | [] => .error ⟨.unterminatedText, opening⟩
    | '"' :: _ => .ok (String.ofList done.reverse, c.drop 1)
    | '\\' :: [] => .error ⟨.unterminatedText, opening⟩
    | '\\' :: 'u' :: rest =>
      match codeUnit? rest with
      | some (unit, after) =>
        if after.isEmpty then .error ⟨.invalidCodePoint, c.position + 1⟩
        else if 0xD800 ≤ unit && unit ≤ 0xDBFF then
          match lowSurrogate? after with
          | some (low, _) =>
            let point := 0x10000 + (unit - 0xD800) * 0x400 + (low - 0xDC00)
            textFrom opening fuel (c.drop 12) (Char.ofNat point :: done)
          | none => textFrom opening fuel (c.drop 6) (Text.charOf unit :: done)
        else textFrom opening fuel (c.drop 6) (Text.charOf unit :: done)
      | none => .error ⟨.invalidCodePoint, c.position + 1⟩
    | '\\' :: e :: _ =>
      match shortEscape? e with
      | some meant => textFrom opening fuel (c.drop 2) (meant :: done)
      | none => c.fail .invalidEscape
    | x :: _ =>
      if x.toNat < 0x20 then c.fail .controlCharacter
      else textFrom opening fuel (c.drop 1) (x :: done)

/-- A text at its opening quote. -/
def text (c : Cursor) : Except Error (String × Cursor) :=
  textFrom c.position (c.rest.length + 1) (c.drop 1) []

/-! ### Numbers -/

def isDigit (c : Char) : Bool := '0' ≤ c && c ≤ '9'

def digitsValue (cs : List Char) : Nat := cs.foldl (fun n c => 10 * n + (c.toNat - '0'.toNat)) 0

/-- The digits of a whole number: a zero alone, or digits that start with no zero. -/
def wholeDigits : List Char → List Char
  | '0' :: _ => ['0']
  | cs => cs.takeWhile isDigit

/-- The exponent at the front, with the number of characters it takes. -/
def exponentPart : List Char → Option (Int × Nat)
  | e :: rest =>
    if e = 'e' || e = 'E' then
      let (negative, body, taken) :=
        match rest with
        | '-' :: more => (true, more, 2)
        | '+' :: more => (false, more, 2)
        | more => (false, more, 1)
      let digits := body.takeWhile isDigit
      if digits.isEmpty then none
      else
        let size : Int := digitsValue digits
        some (if negative then -size else size, taken + digits.length)
    else none
  | [] => none

/-- A number at the front of a cursor. -/
def number (c : Cursor) : Except Error (Value × Cursor) :=
  let (negative, body) :=
    match c.rest with
    | '-' :: rest => (true, rest)
    | rest => (false, rest)
  let whole := wholeDigits body
  if whole.isEmpty then c.fail .expectingValue
  else
    let afterWhole := body.drop whole.length
    let fraction :=
      match afterWhole with
      | '.' :: rest => rest.takeWhile isDigit
      | _ => []
    let pointed := if fraction.isEmpty then 0 else fraction.length + 1
    let exponent := exponentPart (afterWhole.drop pointed)
    let taken := (if negative then 1 else 0) + whole.length + pointed
    if fraction.isEmpty && exponent.isNone then
      if Misuse.digitLimit < whole.length then c.fail (.tooManyDigits whole.length)
      else
        let size : Int := digitsValue whole
        .ok (.int (if negative then -size else size), c.drop taken)
    else
      let (power, length) := exponent.getD (0, 0)
      let value := digitsValue (whole ++ fraction)
      .ok (.float (Reading.double negative value (power - fraction.length)), c.drop (taken + length))

/-! ### Documents -/

/-- Sets a field: a new one comes last, an old one keeps its place. -/
def setField (fields : List (String × Value)) (name : String) (v : Value) : List (String × Value) :=
  if fields.any (·.1 = name) then
    fields.map fun field => if field.1 = name then (name, v) else field
  else fields ++ [(name, v)]

/-- The words that are values. -/
def words : List (String × Value) :=
  [("null", .null), ("true", .bool true), ("false", .bool false), ("NaN", .float .nan),
    ("Infinity", .float (.infinite false)), ("-Infinity", .float (.infinite true))]

/-- A word at the front of a cursor. -/
def word? (c : Cursor) : Option (Value × Cursor) :=
  (words.find? fun word => word.1.toList.isPrefixOf c.rest).map fun word =>
    (word.2, c.drop word.1.length)

mutual

/-- A value at a cursor. -/
def value : Nat → Cursor → Except Error (Value × Cursor)
  | 0, c => c.fail .expectingValue
  | fuel + 1, c =>
    match c.rest with
    | '"' :: _ => do
      let (s, after) ← text c
      return (.text s, after)
    | '[' :: _ =>
      let inside := (c.drop 1).skipBlanks
      match inside.rest with
      | ']' :: _ => .ok (.list [], inside.drop 1)
      | _ => itemsFrom fuel inside []
    | '\x7b' :: _ =>
      let inside := (c.drop 1).skipBlanks
      match inside.rest with
      | '\x7d' :: _ => .ok (.object [], inside.drop 1)
      | _ => fieldsFrom fuel inside []
    | _ =>
      match word? c with
      | some found => .ok found
      | none => number c

/-- The items of a list from a cursor at one of them on. -/
def itemsFrom : Nat → Cursor → List Value → Except Error (Value × Cursor)
  | 0, c, _ => c.fail .expectingValue
  | fuel + 1, c, done =>
    match value fuel c with
    | .error e => .error e
    | .ok (item, after) =>
      let next := after.skipBlanks
      match next.rest with
      | ']' :: _ => .ok (.list (item :: done).reverse, next.drop 1)
      | ',' :: _ => itemsFrom fuel (next.drop 1).skipBlanks (item :: done)
      | _ => next.fail .expectingComma

/-- The fields of an object from a cursor at the name of one of them on. -/
def fieldsFrom : Nat → Cursor → List (String × Value) → Except Error (Value × Cursor)
  | 0, c, _ => c.fail .expectingName
  | fuel + 1, c, done =>
    match c.rest with
    | '"' :: _ =>
      match text c with
      | .error e => .error e
      | .ok (name, after) =>
        let colon := after.skipBlanks
        match colon.rest with
        | ':' :: _ =>
          match value fuel (colon.drop 1).skipBlanks with
          | .error e => .error e
          | .ok (v, after) =>
            let next := after.skipBlanks
            match next.rest with
            | '\x7d' :: _ => .ok (.object (setField done name v), next.drop 1)
            | ',' :: _ => fieldsFrom fuel (next.drop 1).skipBlanks (setField done name v)
            | _ => next.fail .expectingComma
        | _ => colon.fail .expectingColon
    | _ => c.fail .expectingName

end

/-- Reads a whole document. -/
def read (document : String) : Except Error Value := do
  let cs := document.toList
  if cs.head? = some '\uFEFF' then throw ⟨.byteOrderMark, 0⟩
  let start : Cursor := ⟨0, cs⟩
  let (v, after) ← value (2 * cs.length + 2) start.skipBlanks
  let stop := after.skipBlanks
  if stop.rest.isEmpty then return v else stop.fail .extraData

end Joinery.Json
