import Joinery.Text.Quoted

/-!
# Bytes

Binary data stands in documents as digits of base 64, four for three bytes. Characters that are no
digits are skipped. A last group of fewer than four digits is filled up with equals signs, behind
which nothing counts.
-/
namespace Joinery.Yaml.Bytes

/-! ### Digits -/

def digits : List Char :=
  "ABCDEFGHIJKLMNOPQRSTUVWXYZabcdefghijklmnopqrstuvwxyz0123456789+/".toList

/-- The value of a digit. -/
def digitValue? (c : Char) : Option Nat := digits.findIdx? (· = c)

def digitOf (n : Nat) : Char := digits.getD n 'A'

/-! ### Reading -/

/-- The bytes of a group of at most four digits; bits that fill no byte are dropped. -/
def ofGroup : List Nat → List UInt8
  | [a, b] => [.ofNat (4 * a + b / 16)]
  | [a, b, c] => [.ofNat (4 * a + b / 16), .ofNat (16 * b + c / 4)]
  | [a, b, c, d] => [.ofNat (4 * a + b / 16), .ofNat (16 * b + c / 4), .ofNat (64 * c + d)]
  | _ => []

/-- Whether a group is full with the equals signs behind it. -/
def isFilled (group : List Nat) (signs : Nat) : Bool := 2 ≤ group.length && 4 ≤ group.length + signs

/-- The bytes of a text behind the digits of a group and some equals signs. -/
def decodeFrom : List Nat → Nat → List Char → Option (List UInt8)
  | group, _, [] => if group.isEmpty then some [] else none
  | group, signs, '=' :: rest =>
    if isFilled group (signs + 1) then some (ofGroup group)
    else decodeFrom group (if 2 ≤ group.length then signs + 1 else signs) rest
  | group, signs, c :: rest =>
    match digitValue? c with
    | none => decodeFrom group signs rest
    | some digit =>
      if group.length = 3 then (decodeFrom [] 0 rest).map (ofGroup (group ++ [digit]) ++ ·)
      else decodeFrom (group ++ [digit]) 0 rest

/-- The bytes that a text of ASCII characters stands for. -/
def decode? (cs : List Char) : Option (List UInt8) :=
  if cs.all fun c => c.toNat < 128 then decodeFrom [] 0 cs else none

/-! ### Writing -/

/-- The digits of bytes. -/
def encode : List UInt8 → List Char
  | [] => []
  | [a] =>
    let n := a.toNat
    [digitOf (n / 4), digitOf (n % 4 * 16), '=', '=']
  | [a, b] =>
    let n := 256 * a.toNat + b.toNat
    [digitOf (n / 1024), digitOf (n / 16 % 64), digitOf (n % 16 * 4), '=']
  | a :: b :: c :: rest =>
    let n := 65536 * a.toNat + 256 * b.toNat + c.toNat
    digitOf (n / 262144) :: digitOf (n / 4096 % 64) :: digitOf (n / 64 % 64) :: digitOf (n % 64) ::
      encode rest

/-- How many bytes the digits of a line stand for. -/
def lineSize : Nat := 57

/-- The lines of digits for bytes, of which there are no more than a number of lines. -/
def linesFrom : Nat → List UInt8 → List (List Char)
  | 0, _ => []
  | _, [] => []
  | fuel + 1, bytes => encode (bytes.take lineSize) :: linesFrom fuel (bytes.drop lineSize)

/-- The lines of digits for bytes. -/
def lines (bytes : List UInt8) : List (List Char) := linesFrom bytes.length bytes

/-! ### Texts -/

/-- One byte between the given quotes. -/
def quoteByte (quote : Char) (b : UInt8) : List Char :=
  if b.toNat < 128 then Text.quoteChar quote (Char.ofNat b.toNat)
  else '\\' :: 'x' :: Text.hexDigits 2 b.toNat

/-- Bytes as messages quote them. -/
def quoted (bytes : List UInt8) : String :=
  let quote := Text.quoteFor (bytes.map fun b => Char.ofNat b.toNat)
  String.ofList ('b' :: quote :: bytes.flatMap (quoteByte quote) ++ [quote])

/-- The text that bytes encode in UTF-8, or byte for byte where they do not. -/
def text (bytes : List UInt8) : String :=
  (String.fromUTF8? ⟨bytes.toArray⟩).getD
    (String.ofList (bytes.map fun b => Char.ofNat b.toNat))

end Joinery.Yaml.Bytes
