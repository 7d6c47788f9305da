import Joinery.Failure
import Joinery.Number.Reading
import Joinery.Yaml.Node

/-!
# Scalars

The tag of a scalar says what kind of thing its text stands for. A scalar without quotes has the tag
that its spelling suggests by YAML 1.1: null, a truth value, a number, a stamp, one of the two texts
with a meaning of their own, `=` and `<<`, or else a text. Integers may be binary, octal,
hexadecimal or in base sixty, doubles need a point, and underscores between digits are skipped. With
a tag that is written out any text may be said to stand for such a thing, which need not be true.
-/
namespace Joinery.Yaml

inductive Tag where
  | null | bool | int | float | stamp | text | bytes
  /-- The key of what is merged into a mapping. -/
  | merge
  /-- The key of the scalar that a mapping may stand for. -/
  | value
  | list | mapping | pairs | set
  /-- Nothing that is known. -/
  | other
  deriving DecidableEq, Repr

namespace Tag

def nullWords : List String := ["", "~", "null", "Null", "NULL"]

def boolWords : List String :=
  ["yes", "Yes", "YES", "no", "No", "NO", "true", "True", "TRUE", "false", "False", "FALSE",
    "on", "On", "ON", "off", "Off", "OFF"]

def infinityWords : List String := [".inf", ".Inf", ".INF"]

def nanWords : List String := [".nan", ".NaN", ".NAN"]

/-! ### Spelling of numbers -/

def isDecimalChar (c : Char) : Bool := c.isDigit || c == '_'

def startsWithDigit (cs : List Char) : Bool := cs.head?.any Char.isDigit

/-- Whether a text is made of decimal digits, the first of which is no underscore. -/
def isDecimal (cs : List Char) : Bool := startsWithDigit cs && cs.all isDecimalChar

/-- Whether a text is made of at least one digit below a base. -/
def isBased (base : Nat) (cs : List Char) : Bool :=
  !cs.isEmpty && cs.all fun c => c = '_' || (Text.hexValue? c).any (· < base)

/-- The parts of a text between colons. -/
def colonParts : List Char → List (List Char)
  | [] => [[]]
  | c :: rest =>
    if c = ':' then [] :: colonParts rest
    else
      match colonParts rest with
      | part :: parts => (c :: part) :: parts
      | [] => [[c]]

/-- Whether a text is a place of base sixty behind the first. -/
def isSixtieth : List Char → Bool
  | [c] => c.isDigit
  | [c, d] => '0' ≤ c && c ≤ '5' && d.isDigit
  | _ => false

/-- Whether a text is made of places of base sixty with colons between them. -/
def isSixty (cs : List Char) : Bool :=
  match colonParts cs with
  | first :: rest => isDecimal first && rest.all isSixtieth
  | [] => false

/-- Whether a text is an integer. -/
def isInteger (cs : List Char) : Bool :=
  match (Reading.sign cs).2 with
  | ['0'] => true
  | '0' :: 'b' :: digits => isBased 2 digits
  | '0' :: 'x' :: digits => isBased 16 digits
  | '0' :: digits => isBased 8 digits
  | body => isSixty body

/-- Whether a text is empty or an exponent, which needs a sign. -/
def isExponent : List Char → Bool
  | [] => true
  | e :: sign :: digits =>
    (e = 'e' || e = 'E') && (sign = '-' || sign = '+') && !digits.isEmpty && digits.all Char.isDigit
  | _ => false

/-- Whether a text is a double that is spelled with digits. -/
def isPointed (cs : List Char) : Bool :=
  let body := (Reading.sign cs).2
  match body.dropWhile (· ≠ '.') with
  | '.' :: fraction =>
    let whole := body.takeWhile (· ≠ '.')
    let exponent := fraction.dropWhile isDecimalChar
    if whole.isEmpty then cs.head? = some '.' && startsWithDigit fraction && isExponent exponent
    else if ':' ∈ whole then isSixty whole && exponent.isEmpty
    else isDecimal whole && isExponent exponent
  | _ => false

/-- Whether a text is a double. -/
def isDouble (cs : List Char) : Bool :=
  nanWords.contains (String.ofList cs) ||
    infinityWords.contains (String.ofList (Reading.sign cs).2) || isPointed cs

/-! ### Tags -/

/-- A text without a line break at its end, which does not count. -/
def line (cs : List Char) : List Char :=
  if 1 < cs.length && cs.getLast? = some '\n' then cs.dropLast else cs

/-- The tag that the spelling of a scalar suggests. -/
def ofSpelling (s : String) : Tag :=
  let cs := line s.toList
  let word := String.ofList cs
  if boolWords.contains word then .bool
  else if isDouble cs then .float
  else if isInteger cs then .int
  else if word = "<<" then .merge
  else if nullWords.contains word then .null
  else if Stamp.isPlain cs then .stamp
  else if word = "=" then .value
  else if ["!", "&", "*"].contains word then .other
  else .text

/-- What the names of the tags of YAML start with. -/
def standard : String := "tag:yaml.org,2002:"

/-- The tags by their names. -/
def named : List (String × Tag) :=
  [("null", .null), ("bool", .bool), ("int", .int), ("float", .float), ("timestamp", .stamp),
    ("str", .text), ("binary", .bytes), ("merge", .merge), ("value", .value), ("seq", .list),
    ("map", .mapping), ("omap", .pairs), ("pairs", .pairs), ("set", .set)]

/-- Whether what has a tag holds other nodes. -/
def isCollection (tag : Tag) : Bool := [list, mapping, pairs, set].contains tag

/-- The tag of a name. -/
def ofName (name : String) : Tag :=
  ((named.find? fun entry => standard ++ entry.1 = name).map Prod.snd).getD .other

end Tag

/-! ### What scalars stand for -/

/-- The integer that digits of a base write, which is announced in front of them or not. -/
def based (base : Nat) (letter : Char) (cs : List Char) : Except Misuse Int :=
  let text := String.ofList cs
  let (negative, body) := Reading.sign (Reading.trim text)
  let digits := match body with
    | '0' :: c :: rest => if c.toLower = letter then rest else body
    | _ => body
  let digit? c := ((Text.digitValue? c).or (Text.hexValue? c)).filter (· < base)
  match digits.foldlM (fun n c => (digit? c).map (base * n + ·)) 0 with
  | some n =>
    if digits.isEmpty then .error (Reading.unreadableInteger text)
    else .ok (if negative then -(n : Int) else n)
  | none => .error (Reading.unreadableInteger text)

/-- The integer without sign that a text without underscores stands for. -/
def whole (cs : List Char) : Except Misuse Int :=
  match cs with
  | [] => .error .tooShort
  | '0' :: 'b' :: digits => based 2 'b' digits
  | '0' :: 'x' :: digits => based 16 'x' digits
  | '0' :: _ => based 8 'o' cs
  | cs => do
    let places ← (Tag.colonParts cs).mapM fun part => Reading.integer (String.ofList part)
    return places.foldl (fun sum place => 60 * sum + place) 0

/-- The integer that a text stands for. -/
def integer (s : String) : Except Misuse Int := do
  let (negative, body) := Reading.sign (s.toList.filter (· ≠ '_'))
  let i ← whole body
  return if negative then -i else i

/-- The sum of places of base sixty, the last one first. -/
def sixtySum (places : List Binary64) : Except Misuse Number := do
  let (sum, _) ← places.foldlM (fun (sum, weight) place => do
    return (← sum.add (← (Number.float place).mul (.int weight)), 60 * weight))
    (Number.float 0, (1 : Int))
  return sum

/-- The double without sign that a text without underscores stands for. -/
def fraction (cs : List Char) : Except Misuse Binary64 := do
  match String.ofList (cs.map Char.toLower) with
  | ".inf" => return .infinite false
  | ".nan" => return .nan
  | _ =>
    let places ← (Tag.colonParts cs).mapM fun part => (Value.text (String.ofList part)).toDouble
    match places with
    | [x] => return x
    | places => (← sixtySum places.reverse).toDouble

/-- The double that a text stands for. -/
def double (s : String) : Except Misuse Binary64 := do
  let cs := s.toList.filter (· ≠ '_')
  if cs.isEmpty then throw .tooShort
  let (negative, body) := Reading.sign cs
  let x ← fraction body
  return if negative then -x else x

/-- The truth value that a text stands for. -/
def truth (s : String) : Except Misuse Bool :=
  let word := String.ofList (s.toList.map Char.toLower)
  if ["yes", "true", "on"].contains word then .ok true
  else if ["no", "false", "off"].contains word then .ok false
  else .error (.missingField word)

/-- The stamp that a text stands for. -/
def stamp (s : String) : Except Misuse Stamp :=
  match Stamp.ofLine? (Tag.line s.toList) with
  | none => .error (.notObject .null)
  | some stamp => if stamp.isValid then .ok stamp else .error .notDate

/-- What a scalar with a tag stands for. -/
def scalar (tag : Tag) (s : String) : Except Failure Node := do
  match tag with
  | .null => return .scalar .null
  | .bool => return .scalar (.bool (← truth s))
  | .int => return .scalar (.int (← integer s))
  | .float => return .scalar (.float (← double s))
  | .stamp => return .stamp (← stamp s)
  | .text => return .text s
  | .bytes =>
    match Bytes.decode? s.toList with
    | some data => return .bytes data
    | none => throw (.settings .malformed)
  | _ => throw (.settings .malformed)

end Joinery.Yaml
