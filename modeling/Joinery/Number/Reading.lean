import Joinery.Misuse
import Joinery.Number.Binary64
import Joinery.Text.Blank
import Joinery.Text.Digit
import Joinery.Text.Quoted

/-!
# Reading numbers

The texts that read as numbers. Blanks around them are ignored, a sign may stand in front, single
underscores may stand between digits, and digits may be of any script. A double also has a fraction
and an exponent, or is an infinity or NaN spelled out in any case.
-/
namespace Joinery.Reading

/-- A run of digits with single underscores between them, from the first digit on: the number so
far, how many digits it has, and the rest. -/
def digitsFrom : List Char → Nat → Nat → Nat × Nat × List Char
  | [], value, count => (value, count, [])
  | c :: rest, value, count =>
    match Text.digitValue? c with
    | some d => digitsFrom rest (10 * value + d) (count + 1)
    | none =>
      match c, rest with
      | '_', next :: more =>
        match count, Text.digitValue? next with
        | _ + 1, some d => digitsFrom more (10 * value + d) (count + 1)
        | _, _ => (value, count, c :: rest)
      | _, _ => (value, count, c :: rest)

/-- A run of digits at the front, which may be empty. -/
def digits (cs : List Char) : Nat × Nat × List Char := digitsFrom cs 0 0

/-- A sign at the front. -/
def sign : List Char → Bool × List Char
  | '-' :: rest => (true, rest)
  | '+' :: rest => (false, rest)
  | cs => (false, cs)

/-- The exponent part, which is optional; none when it is malformed. -/
def exponent? : List Char → Option Int
  | [] => some 0
  | c :: rest =>
    if c = 'e' || c = 'E' then
      let (negative, rest) := sign rest
      match digits rest with
      | (value, _ + 1, []) => some (if negative then -value else value)
      | _ => none
    else none

/-- The double of given digits and exponent; exponents far outside the range of doubles are not
computed. -/
def double (negative : Bool) (value : Nat) (exponent : Int) : Binary64 :=
  if value = 0 then .zero negative
  else if 400 < exponent then .infinite negative
  else if exponent + value.log2 < -400 then .zero negative
  else .ofDecimal negative value exponent

/-- A number without sign that is spelled with digits. -/
def decimal? (negative : Bool) (cs : List Char) : Option Binary64 :=
  let (whole, wholeCount, rest) := digits cs
  let (fraction, places, rest) :=
    match rest with
    | '.' :: rest => digits rest
    | rest => (0, 0, rest)
  if wholeCount + places = 0 then none
  else
    (exponent? rest).map fun exponent =>
      double negative (whole * 10 ^ places + fraction) (exponent - places)

/-- The text without blanks at its ends; the information separators of ASCII stay. -/
def trim (s : String) : List Char :=
  let isSpace c := Text.isBlank c && !(28 ≤ c.toNat && c.toNat ≤ 31)
  ((s.toList.dropWhile isSpace).reverse.dropWhile isSpace).reverse

/-- The double that a text reads as. -/
def double? (s : String) : Option Binary64 :=
  let (negative, body) := sign (trim s)
  match String.ofList (body.map Char.toLower) with
  | "inf" | "infinity" => some (.infinite negative)
  | "nan" => some .nan
  | _ => decimal? negative body

/-- The cause that a text is no integer, of which a message shows no more than its start. -/
def unreadableInteger (s : String) : Misuse :=
  .unreadableInteger (String.ofList ((Text.quoted s).toList.take 200))

/-- The integer that a text reads as; its digits are counted before what follows is looked at. -/
def integer (s : String) : Except Misuse Int :=
  let (negative, body) := sign (trim s)
  match digits body with
  | (_, 0, _) | (_, _, '_' :: _) => .error (unreadableInteger s)
  | (value, count, rest) =>
    if Misuse.digitLimit < count then .error (.tooManyDigits count)
    else if rest.isEmpty then .ok (if negative then -value else value)
    else .error (unreadableInteger s)

end Joinery.Reading
